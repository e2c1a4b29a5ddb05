import Mathlib.Data.List.Basic
import Mathlib.Data.List.TakeWhile
import Survey.Text.Scan

/-!
What the parts of a recogniser read, and what a search finds in a text put together of parts.
-/
namespace Survey.Text

section Characters

-- The instance found first otherwise would look at every character there is.
instance decidableForallMem (p : Char → Prop) [DecidablePred p] (cs : List Char) :
    Decidable (∀ c ∈ cs, p c) :=
  List.decidableBAll p cs

/-- The numbers of the white space characters. -/
def blankCodes : List Nat :=
  List.range' 0x09 5 ++ List.range' 0x2000 11 ++
    [0x20, 0x85, 0xA0, 0x1680, 0x2028, 0x2029, 0x202F, 0x205F, 0x3000]

theorem mem_blankCodes {c : Char} (blank : isBlank c) : c.toNat ∈ blankCodes := by
  simp only [isBlank, Bool.or_eq_true, Bool.and_eq_true, decide_eq_true_eq, beq_iff_eq] at blank
  simp only [blankCodes, List.mem_append, List.mem_range'_1, List.mem_cons, List.not_mem_nil, or_false]
  omega

theorem isWord_of_isBlank {c : Char} (blank : isBlank c) : isWord c = false := by
  have apart : ∀ n ∈ blankCodes, isWord (Char.ofNat n) = false := by decide +kernel
  have code := apart c.toNat (mem_blankCodes blank)
  rwa [Char.ofNat_toNat] at code

theorem isBlank_of_isWord {c : Char} (word : isWord c) : isBlank c = false := by
  by_contra blank
  rw [isWord_of_isBlank (Bool.not_eq_false _ ▸ blank)] at word
  cases word

end Characters

section Readers

variable {cs rest : List Char} {p : Char → Bool}

theorem lit_eq_some_iff {w : String} : lit w cs = some rest ↔ cs = w.toList ++ rest := by
  rw [lit, List.isPrefixOf?_eq_some_iff_append_eq, eq_comm]

theorem one_eq_some_iff : one p cs = some rest ↔ ∃ c, p c ∧ cs = c :: rest := by
  cases cs with
  | nil => simp [one]
  | cons c cs =>
      constructor
      · intro read
        by_cases held : p c
        · exact ⟨c, held, by simpa [one, held] using read⟩
        · simp [one, held] at read
      · rintro ⟨d, held, same⟩
        cases same
        simp [one, held]

theorem skipBlank_append {blanks : List Char} (blank : ∀ c ∈ blanks, isBlank c) (rest : List Char) :
    skipBlank (blanks ++ rest) = skipBlank rest :=
  List.dropWhile_append_of_pos blank

theorem skipBlank_cons {c : Char} (solid : isBlank c = false) (cs : List Char) :
    skipBlank (c :: cs) = c :: cs :=
  List.dropWhile_cons_of_neg (by simp [solid])

/-- A word stops at white space, and without any where the rest stops it. -/
theorem isWord_head?_blanks {blanks : List Char} (blank : ∀ c ∈ blanks, isBlank c)
    (stops : blanks = [] → ∀ c ∈ rest.head?, isWord c = false) :
    ∀ c ∈ (blanks ++ rest).head?, isWord c = false := by
  intro c member
  cases blanks with
  | nil => exact stops rfl c member
  | cons b blanks =>
      cases member
      exact isWord_of_isBlank (blank _ List.mem_cons_self)

theorem exists_skipBlank (cs : List Char) :
    ∃ blanks, (∀ c ∈ blanks, isBlank c) ∧ cs = blanks ++ skipBlank cs :=
  ⟨cs.takeWhile isBlank, fun _ => List.mem_takeWhile_imp, List.takeWhile_append_dropWhile.symm⟩

theorem run1_eq_some {w : String} (read : run1 p cs = some (w, rest)) :
    ∃ run, run ≠ [] ∧ (∀ c ∈ run, p c) ∧ w = String.ofList run ∧ cs = run ++ rest := by
  unfold run1 at read
  split at read
  · cases read
  · next some =>
    cases read
    exact ⟨cs.takeWhile p, some, fun _ => List.mem_takeWhile_imp, rfl,
      List.takeWhile_append_dropWhile.symm⟩

theorem takeWhile_run {run : List Char} (all : ∀ c ∈ run, p c)
    (stops : ∀ c ∈ rest.head?, p c = false) : (run ++ rest).takeWhile p = run := by
  rw [List.takeWhile_append_of_pos all]
  cases rest with
  | nil => simp
  | cons c rest => simp [stops c rfl]

theorem dropWhile_eq_self (stops : ∀ c ∈ cs.head?, p c = false) : cs.dropWhile p = cs := by
  cases cs with
  | nil => rfl
  | cons c cs => simp [stops c rfl]

theorem dropWhile_run {run : List Char} (all : ∀ c ∈ run, p c)
    (stops : ∀ c ∈ rest.head?, p c = false) : (run ++ rest).dropWhile p = rest := by
  rw [List.dropWhile_append_of_pos all, dropWhile_eq_self stops]

/-- A text has one first place of a character. -/
theorem eq_of_append_cons {c : Char} {front front' back back' : List Char} (free : c ∉ front)
    (free' : c ∉ front') (same : front ++ c :: back = front' ++ c :: back') :
    front = front' ∧ back = back' := by
  have other : ∀ {part : List Char}, c ∉ part → ∀ d ∈ part, (d != c) = true := by
    intro part free d member
    rw [bne_iff_ne]
    rintro rfl
    exact free member
  have stops : ∀ (back : List Char), ∀ d ∈ (c :: back).head?, (d != c) = false := by
    intro back d member
    cases member
    simp
  have fronts := congrArg (List.takeWhile (· != c)) same
  rw [takeWhile_run (other free) (stops back), takeWhile_run (other free') (stops back')] at fronts
  subst fronts
  exact ⟨rfl, (List.cons.inj (List.append_cancel_left same)).2⟩

theorem run1_append {run : List Char} (nonempty : run ≠ []) (all : ∀ c ∈ run, p c)
    (stops : ∀ c ∈ rest.head?, p c = false) :
    run1 p (run ++ rest) = some (String.ofList run, rest) := by
  rw [run1, takeWhile_run all stops, dropWhile_run all stops]
  cases run with
  | nil => exact absurd rfl nonempty
  | cons c run => rfl

end Readers

section Search

variable {α : Type} {p : Option Char → Recogniser α} {before : Option Char}

theorem findFrom_skip (passed rest : List Char) :
    findFrom p before passed.length (passed ++ rest) =
      findFrom p (passed.getLast?.or before) 0 rest := by
  induction passed generalizing before with
  | nil => rfl
  | cons c passed ih =>
      rw [List.length_cons, List.cons_append, findFrom, ih, List.getLast?_cons]
      cases passed.getLast? <;> rfl

/-- After what was found the search goes on behind it. -/
theorem findFrom_of_some {a : α} {found rest : List Char}
    (read : p before (found ++ rest) = some (a, rest)) (nonempty : found ≠ []) :
    findFrom p before 0 (found ++ rest) = a :: findFrom p found.getLast? 0 rest := by
  cases found with
  | nil => exact absurd rfl nonempty
  | cons c found =>
      rw [List.cons_append] at read ⊢
      rw [findFrom, read]
      have length : (found ++ rest).length - rest.length = found.length := by simp
      simp only [length, findFrom_skip, List.getLast?_cons]
      cases found.getLast? <;> rfl

theorem findFrom_of_none {c : Char} {cs : List Char} (read : p before (c :: cs) = none) :
    findFrom p before 0 (c :: cs) = findFrom p (some c) 0 cs := by
  rw [findFrom, read]

end Search

section All

variable {α : Type} {p : Recogniser α} {found front rest : List Char}

theorem findFrom_const (before : Option Char) (skip : Nat) (cs : List Char) :
    findFrom (fun _ => p) before skip cs = findFrom (fun _ => p) none skip cs := by
  cases cs <;> cases skip <;> rfl

theorem findAll_of_some {a : α} (read : p (found ++ rest) = some (a, rest)) (nonempty : found ≠ []) :
    findAll p (found ++ rest) = a :: findAll p rest := by
  rw [findAll, findFrom_of_some read nonempty, findFrom_const]
  rfl

/-- Nothing is lost with characters at which nothing starts. -/
theorem findAll_skip (never : ∀ c ∈ front, ∀ cs, p (c :: cs) = none) :
    findAll p (front ++ rest) = findAll p rest := by
  induction front with
  | nil => rfl
  | cons c front ih =>
      rw [List.cons_append, findAll, findFrom_of_none (never c List.mem_cons_self _), findFrom_const]
      exact ih fun d member => never d (List.mem_cons_of_mem c member)

theorem findFirst?_cons_of_none {c : Char} {cs : List Char} (read : p (c :: cs) = none) :
    findFirst? p (c :: cs) = findFirst? p cs := by
  rw [findFirst?, findAll, findFrom_of_none read, findFrom_const]
  rfl

/-- The first find of a search is the one at the first place where the recogniser reads anything. -/
theorem findFirst?_eq_some_iff {cs : List Char} {a : α} (empty : p [] = none) :
    findFirst? p cs = some a ↔ ∃ front rest after, cs = front ++ rest ∧ p rest = some (a, after) ∧
      ∀ other back, cs = other ++ back → (p back).isSome → front.length ≤ other.length := by
  induction cs with
  | nil =>
      refine iff_of_false (by simp [findFirst?, findAll, findFrom]) ?_
      rintro ⟨front, rest, after, whole, read, _⟩
      rw [(List.append_eq_nil_iff.mp whole.symm).2, empty] at read
      cases read
  | cons c cs ih =>
      cases read : p (c :: cs) with
      | none =>
          rw [findFirst?_cons_of_none read, ih]
          constructor
          · rintro ⟨front, rest, after, rfl, found, first⟩
            refine ⟨c :: front, rest, after, rfl, found, fun other back whole reads => ?_⟩
            cases other with
            | nil =>
                rw [← List.nil_append back, ← whole, read] at reads
                cases reads
            | cons d other => exact Nat.succ_le_succ (first other back (List.cons.inj whole).2 reads)
          · rintro ⟨front, rest, after, whole, found, first⟩
            cases front with
            | nil =>
                rw [← List.nil_append rest, ← whole, read] at found
                cases found
            | cons d front =>
                refine ⟨front, rest, after, (List.cons.inj whole).2, found, fun other back split reads => ?_⟩
                exact Nat.le_of_succ_le_succ (first (c :: other) back (congrArg (c :: ·) split) reads)
      | some found =>
          have value : findFirst? p (c :: cs) = some found.1 := by
            rw [findFirst?, findAll, findFrom, read]
            rfl
          rw [value]
          constructor
          · rintro ⟨⟩
            exact ⟨[], c :: cs, found.2, rfl, read, fun _ _ _ _ => Nat.zero_le _⟩
          · rintro ⟨front, rest, after, whole, reads, first⟩
            have none := List.eq_nil_of_length_eq_zero
              (Nat.le_zero.mp (first [] (c :: cs) rfl (by rw [read]; rfl)))
            rw [none, List.nil_append] at whole
            rw [← whole, read] at reads
            exact congrArg (Option.map Prod.fst) reads

end All

end Survey.Text
