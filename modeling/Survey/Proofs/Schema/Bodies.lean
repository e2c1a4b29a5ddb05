import Survey.Proofs.Schema.Headers
import Survey.Proofs.Text.Quotes

/-!
Bodies of blocks. A body ends at the first closing brace outside strings and has no other brace
outside them, so a header in it stands in a string, and so does the line end in front of it. Where no
string runs over the end of a line, no block takes in the header of another.
-/
namespace Survey.Schema.Block

open Survey.Text

variable {place : Place} {q q' : Quoting} {cs body front : List Char} {c : Char} {b : Declaration}

def Place.quoting : Place → Quoting
  | .plain => .outside
  | .string => .inside
  | .escaped => .escaped

def IsBrace (c : Char) (_ : List Char) : Prop :=
  c ∈ ['\x7b', '\x7d']

def IsLineEnd (c : Char) (_ : List Char) : Prop :=
  c = '\n'

instance decidableIsLineEnd (c : Char) (cs : List Char) : Decidable (IsLineEnd c cs) :=
  decEq c '\n'

/-- A text that leaves off outside strings and has braces only in them. -/
structure Bounded (q : Quoting) (body : List Char) : Prop where
  ends : q.run body = .outside
  quoted : q.Places IsBrace (· ≠ .outside) body

theorem Bounded.cons (h : Bounded q' body) (step : q.next c = q')
    (quoted : IsBrace c body → q ≠ .outside) : Bounded q (c :: body) := by
  subst step
  exact ⟨h.ends, Quoting.places_cons.mpr ⟨quoted, h.quoted⟩⟩

theorem bounded_of_bodyFrom (read : bodyFrom place cs = some body) :
    Bounded place.quoting body := by
  fun_induction bodyFrom place cs generalizing body with
  | case1 => cases read
  | case2 => cases read
  | case3 cs =>
      cases read
      exact ⟨rfl, Quoting.places_nil⟩
  | case4 c cs unopened unclosed ih =>
      obtain ⟨tail, inner, rfl⟩ := Option.map_eq_some_iff.mp read
      apply (ih inner).cons
      · simp only [Place.quoting, Quoting.next]
        split <;> rfl
      · simp [IsBrace, unopened, unclosed]
  | case5 c cs ih =>
      obtain ⟨tail, inner, rfl⟩ := Option.map_eq_some_iff.mp read
      apply (ih inner).cons
      · simp only [Place.quoting, Quoting.next]
        split
        · rfl
        · split <;> rfl
      · exact fun _ => by decide
  | case6 c cs ih =>
      obtain ⟨tail, inner, rfl⟩ := Option.map_eq_some_iff.mp read
      exact (ih inner).cons rfl fun _ => by decide

theorem bounded_of_mem_declarations (member : b ∈ declarations cs) : Bounded .outside b.body := by
  obtain ⟨⟨k, name, rest⟩, -, made⟩ := List.mem_filterMap.mp member
  obtain ⟨body, read, rfl⟩ := Option.map_eq_some_iff.mp made
  exact bounded_of_bodyFrom read

/-- A header begins in a text after some of it. -/
def HeaderAfter (front cs : List Char) : Prop :=
  ∃ rest, cs = front ++ rest ∧ (header front.getLast? rest).isSome

/-- Where every brace stands in a string, the line before a header ends in one. -/
theorem HeaderAfter.quoted (h : HeaderAfter front cs)
    (quoted : Quoting.outside.Places IsBrace (· ≠ .outside) cs) :
    ∃ line, front = line ++ ['\n'] ∧ Quoting.outside.run line ≠ .outside := by
  obtain ⟨rest, rfl, found⟩ := h
  obtain ⟨⟨declared, after⟩, read⟩ := Option.isSome_iff_exists.mp found
  obtain ⟨starts, k, name, lead, opens, -, rfl⟩ := opens_of_header read
  have unquoted : '"' ∉ lead := by
    intro member
    rcases opens.blank_or_word _ member with blank | word
    · exact absurd blank (by decide)
    · exact absurd word (by decide)
  -- A header has no quotation mark, so it stands where its brace stands.
  have within : Quoting.outside.run front ≠ .outside := by
    intro plain
    have brace := quoted (front ++ lead) '\x7b' after (by simp) List.mem_cons_self
    rw [Quoting.run_append, plain, Quoting.run_of_free unquoted] at brace
    exact brace rfl
  rcases List.eq_nil_or_concat' front with rfl | ⟨line, c, rfl⟩
  · exact absurd rfl within
  · rw [List.getLast?_concat, Option.all_some, beq_iff_eq] at starts
    subst starts
    refine ⟨line, rfl, fun plain => within ?_⟩
    rw [Quoting.run_append, plain]
    rfl

/-- In the body of a block strings are closed and hold all braces, and a header comes only after a
line end in one. So there is no header unless a string runs over the end of a line. -/
theorem headers_in_bodies_quoted (text : String) (b : Declaration)
    (member : b ∈ declarations (stripComments text.toList)) :
    Bounded .outside b.body ∧
      (∀ front, HeaderAfter front b.body →
        ∃ line, front = line ++ ['\n'] ∧ Quoting.outside.run line ≠ .outside) ∧
      (Quoting.outside.Places IsLineEnd (· = .outside) b.body →
        ∀ front, ¬ HeaderAfter front b.body) := by
  have bounded := bounded_of_mem_declarations member
  refine ⟨bounded, fun front found => found.quoted bounded.quoted, ?_⟩
  intro lined front found
  obtain ⟨line, rfl, within⟩ := found.quoted bounded.quoted
  obtain ⟨rest, split, -⟩ := found
  exact within (lined line '\n' rest (by simp [split]) rfl)

/-- A draft without its closing brace, whose last string is left open, and a post after it. -/
def draftModels : String :=
  "model Draft \x7b\n note String @default(\"\n\n" ++
    "model Post \x7b\n id Int @id\n mark String @default(\"\x7d\")\n\x7d\n"

/-- The draft up to the end of the line before the header of the post. -/
def draftFront : List Char :=
  "\n note String @default(\"\n\n".toList

def draftBody : List Char :=
  draftFront ++ "model Post \x7b\n id Int @id\n mark String @default(\"".toList

def postBody : List Char :=
  "\n id Int @id\n mark String @default(\"\x7d\")\n".toList

theorem bodies_draftModels :
    (declarations (stripComments draftModels.toList)).map (·.body) = [draftBody, postBody] := by
  decide +kernel

theorem headerAfter_draftFront : HeaderAfter draftFront draftBody :=
  ⟨_, rfl, by decide +kernel⟩

theorem exists_of_mem_bodies {body : List Char} (listed : body ∈ [draftBody, postBody]) :
    ∃ b ∈ declarations (stripComments draftModels.toList), b.body = body := by
  rw [← bodies_draftModels] at listed
  exact List.mem_map.mp listed

theorem draftModels_headers_quoted :
    (∃ line, draftFront = line ++ ['\n'] ∧ Quoting.outside.run line ≠ .outside) ∧
      ∀ front, ¬ HeaderAfter front postBody := by
  obtain ⟨draft, first, drafted⟩ := exists_of_mem_bodies List.mem_cons_self
  obtain ⟨post, second, posted⟩ := exists_of_mem_bodies (List.mem_cons_of_mem _ List.mem_cons_self)
  constructor
  · apply (headers_in_bodies_quoted draftModels draft first).2.1
    rw [drafted]
    exact headerAfter_draftFront
  · rw [← posted]
    apply (headers_in_bodies_quoted draftModels post second).2.2
    rw [posted]
    decide +kernel

/-- The draft takes in the header of the post. -/
theorem draftModels_header_taken_in :
    ¬ ∀ b ∈ declarations (stripComments draftModels.toList), ∀ front, ¬ HeaderAfter front b.body := by
  intro free
  obtain ⟨draft, member, drafted⟩ := exists_of_mem_bodies List.mem_cons_self
  apply free draft member draftFront
  rw [drafted]
  exact headerAfter_draftFront

end Survey.Schema.Block
