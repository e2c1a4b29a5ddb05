import Mathlib.Data.List.Basic

/-!
Strings in a text: what stands between quotation marks, where a backslash takes the next character
with it.
-/
namespace Survey.Text

/-- Where a text with strings leaves off. -/
inductive Quoting where
  | outside
  | inside
  /-- After a backslash in a string. -/
  | escaped
  deriving DecidableEq

namespace Quoting

def next : Quoting → Char → Quoting
  | outside, c => if c = '"' then inside else outside
  | inside, c => if c = '\\' then escaped else if c = '"' then outside else inside
  | escaped, _ => inside

def run (q : Quoting) (cs : List Char) : Quoting :=
  cs.foldl next q

variable {q : Quoting} {cs w : List Char} {c : Char}
  {mark : Char → List Char → Prop} {p : Quoting → Prop}

@[simp] theorem run_nil (q : Quoting) : q.run [] = q := rfl

@[simp] theorem run_cons (q : Quoting) (c : Char) (cs : List Char) :
    q.run (c :: cs) = (q.next c).run cs := rfl

theorem run_append (q : Quoting) (cs ds : List Char) : q.run (cs ++ ds) = (q.run cs).run ds :=
  List.foldl_append

theorem run_of_free (free : '"' ∉ cs) : outside.run cs = outside := by
  induction cs with
  | nil => rfl
  | cons c cs ih =>
      rw [List.mem_cons, not_or] at free
      rw [run_cons, next, if_neg (Ne.symm free.1), ih free.2]

theorem run_inside_of_free (unclosed : '"' ∉ cs) (plain : '\\' ∉ cs) : inside.run cs = inside := by
  induction cs with
  | nil => rfl
  | cons c cs ih =>
      rw [List.mem_cons, not_or] at unclosed plain
      rw [run_cons, next, if_neg (Ne.symm plain.1), if_neg (Ne.symm unclosed.1),
        ih unclosed.2 plain.2]

/-- Wherever a text has a mark, the text in front of it leaves off at a place of some kind. What is
a mark may hang on what comes after it. -/
def Places (q : Quoting) (mark : Char → List Char → Prop) (p : Quoting → Prop) (cs : List Char) :
    Prop :=
  ∀ front c back, cs = front ++ c :: back → mark c back → p (q.run front)

theorem places_nil : q.Places mark p [] := by
  intro front c back text
  simp at text

theorem places_cons :
    q.Places mark p (c :: cs) ↔ (mark c cs → p q) ∧ (q.next c).Places mark p cs := by
  constructor
  · intro placed
    refine ⟨placed [] c cs rfl, fun front d back text => ?_⟩
    exact placed (c :: front) d back (by rw [text, List.cons_append])
  · rintro ⟨here, later⟩ front d back text marked
    cases front with
    | nil =>
        obtain ⟨rfl, rfl⟩ := List.cons.inj text
        exact here marked
    | cons e front =>
        obtain ⟨rfl, rest⟩ := List.cons.inj text
        exact later front d back rest marked

instance decidablePlaces [DecidablePred p] [∀ c cs, Decidable (mark c cs)] :
    (q : Quoting) → (cs : List Char) → Decidable (q.Places mark p cs)
  | _, [] => isTrue places_nil
  | q, c :: cs =>
      have := decidablePlaces (q.next c) cs
      decidable_of_iff _ places_cons.symm

theorem Places.append_of_free (free : '"' ∉ w) (unmarked : ∀ c ∈ w, ∀ cs, ¬ mark c cs)
    (later : outside.Places mark p cs) : outside.Places mark p (w ++ cs) := by
  induction w with
  | nil => exact later
  | cons c w ih =>
      rw [List.mem_cons, not_or] at free
      rw [List.cons_append, places_cons, next, if_neg (Ne.symm free.1)]
      refine ⟨fun marked => absurd marked (unmarked c List.mem_cons_self _), ih free.2 ?_⟩
      exact fun d member => unmarked d (List.mem_cons_of_mem c member)

/-- A text without quotation marks does not lead out of a string. -/
theorem Places.append_within (within : q ≠ outside) (unclosed : '"' ∉ w)
    (later : (q.run w).Places mark (· ≠ outside) cs) : q.Places mark (· ≠ outside) (w ++ cs) := by
  induction w generalizing q with
  | nil => exact later
  | cons c w ih =>
      rw [List.mem_cons, not_or] at unclosed
      refine places_cons.mpr ⟨fun _ => within, ih ?_ unclosed.2 later⟩
      cases q with
      | outside => exact absurd rfl within
      | inside =>
          rw [next, if_neg (Ne.symm unclosed.1)]
          split <;> decide
      | escaped =>
          change inside ≠ outside
          decide

end Quoting

end Survey.Text
