import Mathlib.Data.List.Infix
import Survey.Facts.SingleFile
import Survey.Proofs.Text.Lines

/-!
The names of custom elements. A capitalised name and a hyphenated one are each a form that a text either
has or has not; what is read behind an angle bracket is the longest beginning of that form. A hyphenated
name read letter by letter is the capitalised name of its parts.
-/
namespace Survey.SingleFile

open Survey.Text

section Longest

variable {p : List Char → Bool} {cs name : List Char}

/-- The longest beginning of a text that satisfies `p`. -/
def longest? (p : List Char → Bool) (cs : List Char) : Option (List Char) :=
  (cs.inits.filter p).getLast?

theorem pairwise_inits (cs : List Char) : cs.inits.Pairwise (· <+: ·) := by
  induction cs with
  | nil => exact List.pairwise_singleton _ _
  | cons c cs ih =>
      rw [List.inits_cons, List.pairwise_cons, List.pairwise_map]
      exact ⟨fun part _ => List.nil_prefix, ih.imp fun part => (List.prefix_cons_inj c).mpr part⟩

theorem longest?_eq_none_iff : longest? p cs = none ↔ ∀ part, part <+: cs → p part = false := by
  simp only [longest?, List.getLast?_eq_none_iff, List.filter_eq_nil_iff, List.mem_inits,
    Bool.not_eq_true]

/-- A beginning of a text satisfies `p` and is the longest that does. -/
structure Longest (p : List Char → Bool) (cs name : List Char) : Prop where
  begins : name <+: cs
  passes : p name
  most : ∀ part, part <+: cs → p part → part <+: name

theorem longest_of_longest? (found : longest? p cs = some name) : Longest p cs name := by
  obtain ⟨shorter, whole⟩ := List.getLast?_eq_some_iff.mp found
  have ordered := (pairwise_inits cs).filter p
  have passing : ∀ part, part <+: cs ∧ p part ↔ part ∈ shorter ++ [name] := by
    intro part
    rw [← whole, List.mem_filter, List.mem_inits]
  obtain ⟨begins, passes⟩ := (passing name).mpr (by simp)
  refine ⟨begins, passes, fun part start holds => ?_⟩
  rcases List.mem_append.mp ((passing part).mp ⟨start, holds⟩) with before | last
  · rw [whole] at ordered
    exact (List.pairwise_append.mp ordered).2.2 part before name List.mem_cons_self
  · exact List.mem_singleton.mp last ▸ List.prefix_rfl

theorem longest?_eq_some_iff : longest? p cs = some name ↔ Longest p cs name := by
  refine ⟨longest_of_longest?, fun h => ?_⟩
  cases found : longest? p cs with
  | none =>
      have fails := longest?_eq_none_iff.mp found name h.begins
      rw [h.passes] at fails
      cases fails
  | some other =>
      have longest := longest_of_longest? found
      have within := h.most other longest.begins longest.passes
      rw [within.eq_of_length_le (longest.most name h.begins h.passes).length_le]

end Longest

section Names

variable {cs name : List Char} {c : Char}

/-- A capital letter, then letters and digits. -/
def isPascalName : List Char → Bool
  | [] => false
  | c :: cs => c.isUpper && cs.all Char.isAlphanum

/-- Two or more parts of small letters and digits with hyphens between them; the first starts with a
letter. -/
def isDashedName (name : List Char) : Bool :=
  name.head?.any Char.isLower && decide (2 ≤ (pieces (· = '-') name).length) &&
    (pieces (· = '-') name).all fun part => !part.isEmpty && part.all isKebab

/-- A name without its hyphens, with a capital letter after each of them and at the start if asked. -/
def camel : Bool → List Char → List Char
  | _, [] => []
  | up, c :: cs => if c = '-' then camel true cs else (if up then c.toUpper else c) :: camel false cs

theorem camel_of_pieces {first : List Char} {rest : List (List Char)}
    (split : pieces (· = '-') name = first :: rest) (up : Bool) :
    camel up name = (if up then capitalise first else first) ++ rest.flatMap capitalise := by
  induction name generalizing up first rest with
  | nil =>
      cases split
      cases up <;> rfl
  | cons c name ih =>
      rcases pieces_cons_cases split with
        ⟨hyphen, rfl, next, others, rfl, parts⟩ | ⟨plain, tail, rfl, parts⟩
      · rw [camel, if_pos (of_decide_eq_true hyphen), ih parts]
        cases up <;> rfl
      · rw [camel, if_neg (of_decide_eq_false plain), ih parts]
        cases up <;> rfl

theorem kebabToPascal_eq_camel (name : List Char) : kebabToPascal name = camel true name := by
  obtain ⟨first, rest, parts⟩ := List.exists_cons_of_ne_nil (pieces_ne_nil (· = '-') name)
  rw [kebabToPascal, camel_of_pieces parts, parts]
  rfl

theorem kebabRest_isPrefix (cs : List Char) : kebabRest cs <+: cs := by
  induction cs with
  | nil => exact List.nil_prefix
  | cons c cs ih =>
      rw [kebabRest]
      split
      · exact (List.prefix_cons_inj c).mpr ih
      · exact List.nil_prefix

theorem kebabRest_cons_eq_self_iff : kebabRest (c :: cs) = c :: cs ↔
    (isKebab c ∨ c = '-' ∧ cs.head?.any isKebab) ∧ kebabRest cs = cs := by
  rw [kebabRest]
  split
  · next goesOn =>
    have goes : isKebab c ∨ c = '-' ∧ cs.head?.any isKebab := by simpa using goesOn
    simp [goes]
  · next stops =>
    have ends : ¬(isKebab c ∨ c = '-' ∧ cs.head?.any isKebab) := by simpa using stops
    simp [ends]

theorem head?_kebabRest (goesOn : cs.head?.any isKebab) : (kebabRest cs).head? = cs.head? := by
  cases cs with
  | nil => rfl
  | cons c cs =>
      have letter : isKebab c := by simpa using goesOn
      simp [kebabRest, letter]

theorem kebabRest_kebabRest (cs : List Char) : kebabRest (kebabRest cs) = kebabRest cs := by
  induction cs with
  | nil => rfl
  | cons c cs ih =>
      rw [kebabRest]
      split
      · next goesOn =>
        rw [kebabRest_cons_eq_self_iff]
        refine ⟨?_, ih⟩
        rcases Bool.or_eq_true_iff.mp goesOn with letter | hyphen
        · exact .inl letter
        · obtain ⟨mark, next⟩ := Bool.and_eq_true_iff.mp hyphen
          exact .inr ⟨beq_iff_eq.mp mark, (head?_kebabRest next).symm ▸ next⟩
      · rfl

/-- A beginning that goes on to its own end belongs to the rest of the name. -/
theorem prefix_kebabRest (begins : name <+: cs) (whole : kebabRest name = name) :
    name <+: kebabRest cs := by
  induction name generalizing cs with
  | nil => exact List.nil_prefix
  | cons c name ih =>
      obtain ⟨rest, rfl⟩ := begins
      obtain ⟨goesOn, further⟩ := kebabRest_cons_eq_self_iff.mp whole
      have kept : (isKebab c || (c == '-' && (name ++ rest).head?.any isKebab)) = true := by
        rcases goesOn with letter | ⟨mark, next⟩
        · rw [letter, Bool.true_or]
        · cases name with
          | nil => cases next
          | cons d name => simpa [mark] using .inr next
      rw [List.cons_append, kebabRest, if_pos kept]
      exact (List.prefix_cons_inj c).mpr (ih (List.prefix_append name rest) further)

theorem head?_isKebab_iff {first : List Char} {rest : List (List Char)}
    (split : pieces (· = '-') name = first :: rest) (letters : first.all isKebab) :
    name.head?.any isKebab ↔ first ≠ [] := by
  cases name with
  | nil =>
      cases split
      decide
  | cons c name =>
      rcases pieces_cons_cases split with ⟨hyphen, rfl, _⟩ | ⟨_, tail, rfl, _⟩
      · obtain rfl := of_decide_eq_true hyphen
        exact iff_of_false (by decide : ¬isKebab '-') (fun some => some rfl)
      · rw [List.all_cons, Bool.and_eq_true] at letters
        exact iff_of_true letters.1 (List.cons_ne_nil c tail)

/-- A name goes on to its end exactly when its parts are of small letters and digits, and none but the
first is empty. -/
theorem kebabRest_eq_self_iff {first : List Char} {rest : List (List Char)}
    (split : pieces (· = '-') name = first :: rest) : kebabRest name = name ↔
      first.all isKebab ∧ ∀ part ∈ rest, part ≠ [] ∧ part.all isKebab := by
  induction name generalizing first rest with
  | nil =>
      cases split
      simp [kebabRest]
  | cons c name ih =>
      rw [kebabRest_cons_eq_self_iff]
      rcases pieces_cons_cases split with
        ⟨hyphen, rfl, next, others, rfl, parts⟩ | ⟨plain, tail, rfl, parts⟩
      · obtain rfl := of_decide_eq_true hyphen
        have noLetter : ¬isKebab '-' := by decide
        have entered := head?_isKebab_iff parts
        rw [ih parts, List.forall_mem_cons]
        constructor
        · rintro ⟨goesOn, letters, later⟩
          exact ⟨rfl, ⟨(entered letters).mp (goesOn.resolve_left noLetter).2, letters⟩, later⟩
        · rintro ⟨_, ⟨nonempty, letters⟩, later⟩
          exact ⟨.inr ⟨rfl, (entered letters).mpr nonempty⟩, letters, later⟩
      · have other : c ≠ '-' := of_decide_eq_false plain
        rw [ih parts]
        simp [other, and_assoc]

theorem two_le_length_pieces_iff : 2 ≤ (pieces (· = '-') cs).length ↔ '-' ∈ cs := by
  constructor
  · intro several
    by_contra free
    have other : ∀ c ∈ cs, decide (c = '-') = false := by
      intro c held
      rw [decide_eq_false_iff_not]
      rintro rfl
      exact free held
    rw [pieces_of_free other] at several
    exact Nat.not_succ_le_self 1 several
  · intro held
    obtain ⟨front, back, rfl⟩ := List.append_of_mem held
    have left := List.length_pos_iff.mpr (pieces_ne_nil (· = '-') front)
    have right := List.length_pos_iff.mpr (pieces_ne_nil (· = '-') back)
    rw [pieces_append_cons (decide_eq_true rfl), List.length_append]
    omega

theorem isDashedName_cons :
    isDashedName (c :: cs) ↔ c.isLower ∧ '-' ∈ cs ∧ kebabRest cs = cs := by
  by_cases small : c.isLower
  · have letter : isKebab c := by simp [isKebab, small]
    have plain : c ≠ '-' := by
      rintro rfl
      cases small
    obtain ⟨first, rest, parts⟩ := List.exists_cons_of_ne_nil (pieces_ne_nil (· = '-') cs)
    have split : pieces (· = '-') (c :: cs) = (c :: first) :: rest := by
      rw [pieces, if_neg (by simpa using plain), parts]
    have several : 1 ≤ rest.length ↔ '-' ∈ cs := by
      have whole := @two_le_length_pieces_iff (c :: cs)
      rw [split] at whole
      simpa [Ne.symm plain] using whole
    rw [isDashedName, split, kebabRest_eq_self_iff parts, ← several]
    simp [small, letter]
  · simp [isDashedName, small]

theorem longest?_isPascalName (capital : c.isUpper) (cs : List Char) :
    longest? isPascalName (c :: cs) = some (c :: cs.takeWhile Char.isAlphanum) := by
  have run : cs.takeWhile Char.isAlphanum <+: cs := List.takeWhile_prefix _
  refine longest?_eq_some_iff.mpr ⟨(List.prefix_cons_inj c).mpr run, ?_, ?_⟩
  · rw [isPascalName, capital, List.all_takeWhile]
    rfl
  · intro part begins named
    cases part with
    | nil => exact List.nil_prefix
    | cons d part =>
        obtain ⟨rfl, rest, rfl⟩ := List.cons_prefix_cons.mp begins
        have letters := List.all_eq_true.mp (Bool.and_eq_true_iff.mp named).2
        rw [List.takeWhile_append_of_pos letters]
        exact (List.prefix_cons_inj d).mpr (List.prefix_append _ _)

theorem longest?_isDashedName (small : c.isLower) (cs : List Char) : longest? isDashedName (c :: cs) =
    if '-' ∈ kebabRest cs then some (c :: kebabRest cs) else none := by
  split
  · next held =>
    refine longest?_eq_some_iff.mpr ⟨?_, ?_, ?_⟩
    · exact (List.prefix_cons_inj c).mpr (kebabRest_isPrefix cs)
    · exact isDashedName_cons.mpr ⟨small, held, kebabRest_kebabRest cs⟩
    · intro part begins named
      cases part with
      | nil => exact List.nil_prefix
      | cons d part =>
          obtain ⟨rfl, further⟩ := List.cons_prefix_cons.mp begins
          exact (List.prefix_cons_inj d).mpr
            (prefix_kebabRest further (isDashedName_cons.mp named).2.2)
  · next none =>
    refine longest?_eq_none_iff.mpr fun part begins => Bool.eq_false_iff.mpr fun named => none ?_
    cases part with
    | nil => cases named
    | cons d part =>
        obtain ⟨rfl, further⟩ := List.cons_prefix_cons.mp begins
        obtain ⟨_, held, whole⟩ := isDashedName_cons.mp named
        exact (prefix_kebabRest further whole).subset held

theorem longest?_eq_none_of_head {p : List Char → Bool} (empty : p [] = false)
    (head : ∀ c ∈ cs.head?, ∀ part, p (c :: part) = false) : longest? p cs = none := by
  refine longest?_eq_none_iff.mpr fun part begins => ?_
  cases part with
  | nil => exact empty
  | cons d part =>
      obtain ⟨rest, rfl⟩ := begins
      exact head d rfl part

end Names

end Survey.SingleFile
