import Survey.Proofs.Text.Scan
import Survey.Schema.Block

/-!
Headers of blocks. A header has one brace, which is its end, and what it declares can be read off
backwards from there. So a brace ends at most one header, however far before it the search began,
and the headers of a text are found again after any other text.
-/
namespace Survey.Schema.Block

open Survey.Text

def Keyword.word : Keyword → List Char
  | .model => "model".toList
  | .enum => "enum".toList

theorem Keyword.isWord_word (k : Keyword) : ∀ c ∈ k.word, isWord c := by
  cases k <;> decide

theorem Keyword.word_ne_nil (k : Keyword) : k.word ≠ [] := by
  cases k <;> decide

theorem Keyword.getLast?_word_inj {k k' : Keyword} :
    k.word.getLast? = k'.word.getLast? → k = k' := by
  cases k <;> cases k' <;> decide

/-- The text of a header in front of its brace. -/
inductive Opens : Keyword → String → List Char → Prop
  | mk (k : Keyword) {indent gap name space : List Char} : (∀ c ∈ indent, isBlank c) →
      gap ≠ [] → (∀ c ∈ gap, isBlank c) → name ≠ [] → (∀ c ∈ name, isWord c) →
      (∀ c ∈ space, isBlank c) →
      Opens k (String.ofList name) (indent ++ (k.word ++ (gap ++ (name ++ space))))

variable {k : Keyword} {name : String} {lead rest cs : List Char} {before : Option Char}

theorem Opens.blank_or_word (h : Opens k name lead) : ∀ c ∈ lead, isBlank c ∨ isWord c := by
  obtain ⟨indented, -, gap, -, named, spaced⟩ := h
  intro c member
  simp only [List.mem_append] at member
  rcases member with held | held | held | held | held
  · exact Or.inl (indented c held)
  · exact Or.inr (k.isWord_word c held)
  · exact Or.inl (gap c held)
  · exact Or.inr (named c held)
  · exact Or.inl (spaced c held)

theorem Opens.no_brace (h : Opens k name lead) : '\x7b' ∉ lead := by
  intro member
  rcases h.blank_or_word _ member with blank | word
  · exact absurd blank (by decide)
  · exact absurd word (by decide)

theorem Opens.ne_nil (h : Opens k name lead) : lead ≠ [] := by
  obtain ⟨-, -, -, -, -, -⟩ := h
  simp [k.word_ne_nil]

theorem keyword?_eq_some_iff : keyword? cs = some (k, rest) ↔ cs = k.word ++ rest := by
  have models := @lit_eq_some_iff cs rest "model"
  have enums := @lit_eq_some_iff cs rest "enum"
  unfold keyword?
  cases k with
  | model =>
      rw [Keyword.word, ← models]
      cases lit "model" cs <;> simp
  | enum =>
      rw [Keyword.word, ← enums]
      cases first : lit "model" cs with
      | none => simp
      | some after =>
          rw [lit_eq_some_iff] at first
          have other : lit "enum" cs = none := by rw [first]; rfl
          simp [other]

theorem skipBlank_of_isWord {w : List Char} (nonempty : w ≠ []) (word : ∀ c ∈ w, isWord c) :
    skipBlank (w ++ rest) = w ++ rest := by
  obtain ⟨c, w, rfl⟩ := List.exists_cons_of_ne_nil nonempty
  exact skipBlank_cons (isBlank_of_isWord (word c List.mem_cons_self)) _

theorem header_of_opens (h : Opens k name lead) (starts : before.all (· == '\n')) :
    header before (lead ++ '\x7b' :: rest) = some ((k, name, rest), rest) := by
  obtain ⟨indented, apart, gap, nonempty, named, spaced⟩ := h
  rename_i indent blanks name space
  obtain ⟨b, blanks, rfl⟩ := List.exists_cons_of_ne_nil apart
  let after := space ++ '\x7b' :: rest
  have keyword : keyword? (k.word ++ (b :: blanks ++ (name ++ after))) =
      some (k, b :: blanks ++ (name ++ after)) := keyword?_eq_some_iff.mpr rfl
  have blank : one isBlank (b :: blanks ++ (name ++ after)) = some (blanks ++ (name ++ after)) :=
    one_eq_some_iff.mpr ⟨b, gap b List.mem_cons_self, rfl⟩
  have stops : ∀ c ∈ after.head?, isWord c = false :=
    isWord_head?_blanks spaced fun _ c member => by cases member; decide
  have brace : lit "\x7b" (skipBlank after) = some rest := by
    rw [skipBlank_append spaced, skipBlank_cons (by decide), lit_eq_some_iff]
    rfl
  have gap' : ∀ c ∈ blanks, isBlank c := fun c held => gap c (List.mem_cons_of_mem b held)
  have text : indent ++ (k.word ++ (b :: blanks ++ (name ++ space))) ++ '\x7b' :: rest =
      indent ++ (k.word ++ (b :: blanks ++ (name ++ after))) := by simp [after]
  simp only [text, header, starts, if_true, Option.bind_eq_bind, Option.bind_some,
    skipBlank_append indented, skipBlank_of_isWord k.word_ne_nil k.isWord_word, keyword, blank,
    skipBlank_append gap', skipBlank_of_isWord nonempty named, run1_append nonempty named stops,
    brace]

theorem opens_of_header {found : Keyword × String × List Char}
    (read : header before cs = some (found, rest)) :
    before.all (· == '\n') ∧ ∃ k name lead, Opens k name lead ∧ found = (k, name, rest) ∧
      cs = lead ++ '\x7b' :: rest := by
  unfold header at read
  split at read
  · next starts =>
    refine ⟨starts, ?_⟩
    simp only [Option.bind_eq_bind, Option.bind_eq_some_iff, Prod.exists] at read
    obtain ⟨k, atGap, keyword, atBlank, blank, name, atSpace, word, atBody, brace, same⟩ := read
    obtain ⟨rfl, rfl⟩ := Prod.mk.inj (Option.some.inj same)
    obtain ⟨indent, indented, text⟩ := exists_skipBlank cs
    obtain ⟨b, isGap, rfl⟩ := one_eq_some_iff.mp blank
    obtain ⟨gap, blanks, gapped⟩ := exists_skipBlank atBlank
    obtain ⟨run, nonempty, named, rfl, split⟩ := run1_eq_some word
    obtain ⟨space, spaced, ended⟩ := exists_skipBlank atSpace
    rw [keyword?_eq_some_iff.mp keyword] at text
    rw [lit_eq_some_iff.mp brace] at ended
    refine ⟨k, _, _, .mk k indented (List.cons_ne_nil b gap) ?_ nonempty named spaced, rfl, ?_⟩
    · intro c member
      rcases List.mem_cons.mp member with rfl | later
      · exact isGap
      · exact blanks c later
    · rw [text, gapped, split, ended]
      simp
  · cases read

/-- What a text read backwards says of a header that ends where it begins. -/
def backwards (cs : List Char) : List Char × Option Char :=
  let cs := skipBlank cs
  (cs.takeWhile isWord, (skipBlank (cs.dropWhile isWord)).head?)

theorem Opens.backwards (h : Opens k name lead) (more : List Char) :
    backwards (lead.reverse ++ more) = (name.toList.reverse, k.word.getLast?) := by
  obtain ⟨indented, apart, gap, nonempty, named, spaced⟩ := h
  rename_i indent blanks name space
  have reversed : ∀ {p : Char → Bool} {part : List Char}, (∀ c ∈ part, p c) →
      ∀ c ∈ part.reverse, p c := fun all c member => all c (List.mem_reverse.mp member)
  let first := k.word.reverse ++ (indent.reverse ++ more)
  have text : (indent ++ (k.word ++ (blanks ++ (name ++ space)))).reverse ++ more =
      space.reverse ++ (name.reverse ++ (blanks.reverse ++ first)) := by
    simp [first]
  have stops : ∀ c ∈ (blanks.reverse ++ first).head?, isWord c = false :=
    isWord_head?_blanks (reversed gap) fun empty => absurd (List.reverse_eq_nil_iff.mp empty) apart
  have keyword : skipBlank first = first :=
    skipBlank_of_isWord (List.reverse_ne_nil_iff.mpr k.word_ne_nil) (reversed k.isWord_word)
  have word : skipBlank (name.reverse ++ (blanks.reverse ++ first)) =
      name.reverse ++ (blanks.reverse ++ first) :=
    skipBlank_of_isWord (List.reverse_ne_nil_iff.mpr nonempty) (reversed named)
  simp only [Block.backwards, text, skipBlank_append (reversed spaced), word,
    takeWhile_run (reversed named) stops, dropWhile_run (reversed named) stops,
    skipBlank_append (reversed gap), keyword, String.toList_ofList]
  cases k <;> rfl

theorem Opens.unique {k' : Keyword} {name' : String} {lead' : List Char} (h : Opens k name lead)
    (h' : Opens k' name' lead') (shorter : lead' <:+ lead) : k = k' ∧ name = name' := by
  obtain ⟨more, rfl⟩ := shorter
  have whole := h.backwards []
  rw [List.append_nil, List.reverse_append, h'.backwards more.reverse] at whole
  obtain ⟨names, keywords⟩ := Prod.mk.inj whole
  constructor
  · exact Keyword.getLast?_word_inj keywords.symm
  · exact String.toList_inj.mp (List.reverse_injective names.symm)

/-- A header that ends a text and stands at the start of one of its lines. -/
def Begins (before : Option Char) (k : Keyword) (name : String) (lead : List Char) : Prop :=
  ∃ front tail, lead = front ++ tail ∧ Opens k name tail ∧
    (front.getLast?.or before).all (· == '\n')

theorem Begins.unique {before' : Option Char} {k' : Keyword} {name' : String}
    (h : Begins before k name lead) (h' : Begins before' k' name' lead) : k = k' ∧ name = name' := by
  obtain ⟨front, tail, rfl, opens, -⟩ := h
  obtain ⟨front', tail', same, opens', -⟩ := h'
  have ends : tail' <:+ front ++ tail := same ▸ List.suffix_append front' tail'
  rcases List.suffix_or_suffix_of_suffix (List.suffix_append front tail) ends with shorter | shorter
  · obtain ⟨keywords, names⟩ := opens'.unique opens shorter
    exact ⟨keywords.symm, names.symm⟩
  · exact opens.unique opens' shorter

theorem Begins.after (h : Begins none k name lead) (front : List Char) :
    Begins before k name (front ++ '\n' :: lead) := by
  obtain ⟨inner, tail, rfl, opens, starts⟩ := h
  refine ⟨front ++ '\n' :: inner, tail, by simp, opens, ?_⟩
  rw [Option.or_none] at starts
  rw [List.getLast?_append, List.getLast?_cons]
  cases last : inner.getLast? with
  | none => rfl
  | some c => simpa [last] using starts

theorem begins_cons {c : Char} (closed : header before (c :: lead ++ '\x7b' :: rest) = none) :
    Begins before k name (c :: lead) ↔ Begins (some c) k name lead := by
  have last : ∀ front : List Char, (c :: front).getLast? = front.getLast?.or (some c) := by
    intro front
    rw [List.getLast?_cons]
    cases front.getLast? <;> rfl
  constructor
  · rintro ⟨front, tail, text, opens, starts⟩
    cases front with
    | nil =>
        have startsHere : before.all (· == '\n') := starts
        rw [List.nil_append] at text
        rw [text, header_of_opens opens startsHere] at closed
        cases closed
    | cons d front =>
        obtain ⟨rfl, rfl⟩ := List.cons.inj text
        exact ⟨front, tail, rfl, opens, by simpa [last] using starts⟩
  · rintro ⟨front, tail, rfl, opens, starts⟩
    refine ⟨c :: front, tail, rfl, opens, ?_⟩
    rw [last, Option.or_assoc]
    exact starts

theorem header_eq_none (free : '\x7b' ∉ cs) : header before cs = none := by
  cases read : header before cs with
  | none => rfl
  | some found =>
      obtain ⟨-, k, name, lead, -, -, rfl⟩ := opens_of_header read
      simp at free

theorem header_brace_eq_some_iff (free : '\x7b' ∉ lead) {found : Keyword × String × List Char}
    {after : List Char} :
    header before (lead ++ '\x7b' :: rest) = some (found, after) ↔
      before.all (· == '\n') ∧ ∃ k name, Opens k name lead ∧ found = (k, name, rest) ∧
        after = rest := by
  constructor
  · intro read
    obtain ⟨starts, k, name, lead', opens, rfl, text⟩ := opens_of_header read
    obtain ⟨rfl, rfl⟩ := eq_of_append_cons free opens.no_brace text
    exact ⟨starts, k, name, opens, rfl, rfl⟩
  · rintro ⟨starts, k, name, opens, rfl, rfl⟩
    exact header_of_opens opens starts

/-- With the text up to its first brace a search has found the header that ends there, if any. -/
theorem findFrom_header (free : '\x7b' ∉ lead) (before : Option Char) (rest : List Char) :
    ∃ found : Option (Keyword × String),
      (∀ k name, found = some (k, name) ↔ Begins before k name lead) ∧
      findFrom header before 0 (lead ++ '\x7b' :: rest) =
        (found.map fun (k, name) => (k, name, rest)).toList ++
          findFrom header (some '\x7b') 0 rest := by
  induction lead generalizing before with
  | nil =>
      refine ⟨none, fun k name => ⟨fun found => (nomatch found), ?_⟩, ?_⟩
      · rintro ⟨front, tail, text, opens, -⟩
        exact absurd (List.append_eq_nil_iff.mp text.symm).2 opens.ne_nil
      · apply findFrom_of_none
        cases read : header before ('\x7b' :: rest) with
        | none => rfl
        | some found =>
            obtain ⟨-, k, name, opens, -⟩ := (header_brace_eq_some_iff free).mp read
            exact absurd rfl opens.ne_nil
  | cons c lead ih =>
      cases read : header before (c :: lead ++ '\x7b' :: rest) with
      | none =>
          obtain ⟨found, meaning, text⟩ := ih (fun held => free (List.mem_cons_of_mem c held)) (some c)
          refine ⟨found, fun k name => (meaning k name).trans (begins_cons read).symm, ?_⟩
          rw [List.cons_append] at read ⊢
          rw [findFrom_of_none read, text]
      | some found =>
          obtain ⟨⟨k, name, body⟩, after⟩ := found
          obtain ⟨starts, _, _, opens, same, same'⟩ := (header_brace_eq_some_iff free).mp read
          cases same
          cases same'
          have begins : Begins before k name (c :: lead) := ⟨[], c :: lead, rfl, opens, starts⟩
          refine ⟨some (k, name), fun k' name' => ⟨?_, fun begins' => ?_⟩, ?_⟩
          · rintro same
            cases same
            exact begins
          · obtain ⟨rfl, rfl⟩ := begins.unique begins'
            rfl
          · have whole : c :: lead ++ '\x7b' :: rest = (c :: lead ++ ['\x7b']) ++ rest := by simp
            rw [whole] at read ⊢
            rw [findFrom_of_some read (by simp), List.getLast?_concat]
            rfl

theorem findFrom_header_of_free (free : '\x7b' ∉ cs) : findFrom header before 0 cs = [] := by
  induction cs generalizing before with
  | nil => rfl
  | cons c cs ih =>
      rw [findFrom_of_none (header_eq_none free)]
      exact ih fun held => free (List.mem_cons_of_mem c held)

/-- What stands before a line hides no header of the text that starts with it. -/
theorem findFrom_header_after (front cs : List Char) (before : Option Char) :
    ∃ more, findFrom header before 0 (front ++ '\n' :: cs) = more ++ findFrom header none 0 cs := by
  by_cases braced : '\x7b' ∈ front
  · obtain ⟨lead, front', rfl, free⟩ := List.eq_append_cons_of_mem braced
    obtain ⟨found, -, text⟩ := findFrom_header free before (front' ++ '\n' :: cs)
    obtain ⟨more, rest⟩ := findFrom_header_after front' cs (some '\x7b')
    rw [List.append_assoc, List.cons_append, text, rest, ← List.append_assoc]
    exact ⟨_, rfl⟩
  · by_cases opened : '\x7b' ∈ cs
    · obtain ⟨lead, rest, rfl, free⟩ := List.eq_append_cons_of_mem opened
      have free' : '\x7b' ∉ front ++ '\n' :: lead := by simp [braced, free]
      obtain ⟨found, meaning, text⟩ := findFrom_header free none rest
      obtain ⟨found', meaning', text'⟩ := findFrom_header free' before rest
      have whole : front ++ '\n' :: (lead ++ '\x7b' :: rest) =
          (front ++ '\n' :: lead) ++ '\x7b' :: rest := by simp
      rw [whole, text', text]
      cases found with
      | none => exact ⟨_, rfl⟩
      | some header =>
          have again : found' = some header := (meaning' _ _).mpr (((meaning _ _).mp rfl).after front)
          rw [again]
          exact ⟨[], rfl⟩
    · rw [findFrom_header_of_free opened]
      exact ⟨_, (List.append_nil _).symm⟩
termination_by front.length

end Survey.Schema.Block
