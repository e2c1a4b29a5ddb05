import Mathlib.Logic.Relation
import Survey.Graph.Cycles

/-!
The search for cycles seen without colours and parents: what is fresh, what is open and what is found.
It is given as a relation between its states. Every step lessens what remains to be done, so that a
run with enough steps ends with nothing fresh and nothing open. The cycles that a run closes are
listed with those that it does not note again.
-/
namespace Survey.Cycles
open Relation (ReflTransGen)

/-- A search under way. Modules that are neither fresh nor open are finished. -/
structure Search where
  /-- The modules not yet reached, ascending. -/
  fresh : List String
  /-- The open modules from the innermost out, with the successors still to look at. -/
  stack : List (String × List String) := []
  /-- The cycles found, each closed by its first module. -/
  found : List (List String) := []

/-- The open modules from the innermost out. -/
def Search.opened (s : Search) : List String :=
  s.stack.map Prod.fst

/-- The cycle that an arc from the innermost open module to `v` closes. -/
def closing (opened : List String) (v : String) : List String :=
  v :: (opened.takeWhile (· ≠ v)).reverse ++ [v]

namespace Search

/-- One step: open a fresh module, look at one successor, or finish the innermost module. -/
def step? (next : String → List String) (s : Search) : Option Search :=
  match s.stack with
  | [] =>
    match s.fresh with
    | [] => none
    | r :: rest => some { s with fresh := rest, stack := [(r, next r)] }
  | (_, []) :: below => some { s with stack := below }
  | (u, v :: vs) :: below =>
    if s.fresh.contains v then
      some { s with fresh := s.fresh.erase v, stack := (v, next v) :: (u, vs) :: below }
    else if s.opened.contains v then
      some { s with stack := (u, vs) :: below, found := note s.found (closing s.opened v) }
    else some { s with stack := (u, vs) :: below }

/-- The steps that are left: one for every successor to look at, two for a fresh module, which is
opened and finished, and one for an open module. -/
def remaining (next : String → List String) (s : Search) : Nat :=
  (s.fresh.flatMap next).length + 2 * s.fresh.length +
    ((s.stack.flatMap Prod.snd).length + s.stack.length)

/-- At most `n` steps. -/
def run (next : String → List String) : Nat → Search → Search
  | 0, s => s
  | n + 1, s =>
    match s.step? next with
    | some t => run next n t
    | none => s

variable {next : String → List String} {s t : Search}

/-- All that a step can do, with the conditions under which it does so. -/
inductive Moves (next : String → List String) : Search → Search → Prop
  | root {r fresh found} : Moves next ⟨r :: fresh, [], found⟩ ⟨fresh, [(r, next r)], found⟩
  | finish {fresh u below found} :
      Moves next ⟨fresh, (u, []) :: below, found⟩ ⟨fresh, below, found⟩
  | enter {fresh u v rest below found} : v ∈ fresh →
      Moves next ⟨fresh, (u, v :: rest) :: below, found⟩
        ⟨fresh.erase v, (v, next v) :: (u, rest) :: below, found⟩
  | close {fresh u v rest below found} : v ∉ fresh → v ∈ u :: below.map Prod.fst →
      Moves next ⟨fresh, (u, v :: rest) :: below, found⟩
        ⟨fresh, (u, rest) :: below, note found (closing (u :: below.map Prod.fst) v)⟩
  | pass {fresh u v rest below found} : v ∉ fresh → v ∉ u :: below.map Prod.fst →
      Moves next ⟨fresh, (u, v :: rest) :: below, found⟩ ⟨fresh, (u, rest) :: below, found⟩

theorem moves_of_step? (h : step? next s = some t) : Moves next s t := by
  rcases s with ⟨fresh, stack, found⟩
  match stack, h with
  | [], h =>
    match fresh, h with
    | r :: fresh, h =>
      cases h
      exact .root
  | (u, []) :: below, h =>
    cases h
    exact .finish
  | (u, v :: rest) :: below, h =>
    simp only [step?, opened, List.contains_iff_mem, List.map_cons] at h
    split at h
    · next isFresh =>
      cases h
      exact .enter isFresh
    · next notFresh =>
      split at h
      · next isOpen =>
        cases h
        exact .close notFresh isOpen
      · next notOpen =>
        cases h
        exact .pass notFresh notOpen

theorem step?_eq_none_iff : step? next s = none ↔ s.fresh = [] ∧ s.stack = [] := by
  rcases s with ⟨fresh, stack, found⟩
  constructor
  · intro h
    match stack, fresh, h with
    | [], [], _ => exact ⟨rfl, rfl⟩
    | (u, v :: rest) :: below, fresh, h =>
      simp only [step?] at h
      split at h
      · cases h
      · split at h <;> cases h
  · rintro ⟨rfl, rfl⟩
    rfl

theorem Moves.remaining_lt (h : Moves next s t) : t.remaining next < s.remaining next := by
  cases h with
  | root =>
      simp only [remaining, List.flatMap_cons, List.flatMap_nil, List.length_append, List.length_cons,
        List.length_nil]
      omega
  | finish =>
      simp only [remaining, List.flatMap_cons, List.length_append, List.length_cons, List.length_nil]
      omega
  | @enter fresh u v rest below found isFresh =>
      have taken := List.perm_cons_erase isFresh
      have looks := (taken.flatMap_right next).length_eq
      have opens := taken.length_eq
      simp only [remaining, List.flatMap_cons, List.length_append, List.length_cons] at looks opens ⊢
      omega
  | close =>
      simp only [remaining, List.flatMap_cons, List.length_append, List.length_cons]
      omega
  | pass =>
      simp only [remaining, List.flatMap_cons, List.length_append, List.length_cons]
      omega

theorem reach_run (next : String → List String) (n : Nat) (s : Search) :
    ReflTransGen (Moves next) s (run next n s) := by
  induction n generalizing s with
  | zero => exact .refl
  | succ n ih =>
      unfold run
      split
      · next t step => exact .head (moves_of_step? step) (ih t)
      · exact .refl

/-- A run of as many steps as remain ends where no step is left. -/
theorem step?_run {n : Nat} (enough : s.remaining next ≤ n) :
    step? next (run next n s) = none := by
  induction n generalizing s with
  | zero =>
      cases step : step? next s with
      | none => exact step
      | some t =>
          have less := (moves_of_step? step).remaining_lt
          omega
  | succ n ih =>
      unfold run
      split
      · next t step =>
        apply ih
        have less := (moves_of_step? step).remaining_lt
        omega
      · next stuck => exact stuck

theorem run_ends (next : String → List String) (s : Search) :
    (run next (s.remaining next) s).fresh = [] ∧ (run next (s.remaining next) s).stack = [] :=
  step?_eq_none_iff.mp (step?_run (Nat.le_refl _))

theorem step?_of_moves (h : Moves next s t) : step? next s = some t := by
  cases h with
  | root => rfl
  | finish => rfl
  | enter isFresh => simp only [step?, List.contains_iff_mem, if_pos isFresh]
  | close notFresh isOpen =>
      simp only [step?, opened, List.map_cons, List.contains_iff_mem, if_neg notFresh, if_pos isOpen]
  | pass notFresh notOpen =>
      simp only [step?, opened, List.map_cons, List.contains_iff_mem, if_neg notFresh,
        if_neg notOpen]

/-- A run with enough steps ends wherever steps come to an end. -/
theorem run_eq_of_reach (reach : ReflTransGen (Moves next) s t) (ended : step? next t = none) {n : Nat}
    (enough : s.remaining next ≤ n) : run next n s = t := by
  induction reach using ReflTransGen.head_induction_on generalizing n with
  | refl =>
      cases n with
      | zero => rfl
      | succ n => rw [run, ended]
  | @head s u first _ ih =>
      have less := first.remaining_lt
      cases n with
      | zero => omega
      | succ n =>
          rw [run, step?_of_moves first]
          exact ih (by omega)

section Closings

variable {fresh rest : List String} {u v : String} {below : List (String × List String)}
  {found : List (List String)} {n : Nat}

/-- The cycle that the next step closes, if it closes one. -/
def closes? (s : Search) : Option (List String) :=
  match s.stack with
  | (_, v :: _) :: _ =>
    if v ∉ s.fresh ∧ v ∈ s.opened then some (closing s.opened v) else none
  | _ => none

/-- The cycles that at most `n` steps close, in order. -/
def closings (next : String → List String) : Nat → Search → List (List String)
  | 0, _ => []
  | n + 1, s =>
    match s.step? next with
    | some t => s.closes?.toList ++ closings next n t
    | none => []

theorem closes?_of_open (notFresh : v ∉ fresh) (isOpen : v ∈ u :: below.map Prod.fst) :
    closes? ⟨fresh, (u, v :: rest) :: below, found⟩ = some (closing (u :: below.map Prod.fst) v) :=
  if_pos ⟨notFresh, isOpen⟩

theorem closes?_of_fresh (isFresh : v ∈ fresh) :
    closes? ⟨fresh, (u, v :: rest) :: below, found⟩ = none :=
  if_neg fun closes => closes.1 isFresh

theorem closes?_of_finished (notOpen : v ∉ u :: below.map Prod.fst) :
    closes? ⟨fresh, (u, v :: rest) :: below, found⟩ = none :=
  if_neg fun closes => notOpen closes.2

theorem closings_of_step (step : s.step? next = some t) :
    closings next (n + 1) s = s.closes?.toList ++ closings next n t := by
  rw [closings, step]

theorem closings_of_ended (ended : s.step? next = none) : closings next n s = [] := by
  cases n with
  | zero => rfl
  | succ n => rw [closings, ended]

end Closings

end Search

end Survey.Cycles
