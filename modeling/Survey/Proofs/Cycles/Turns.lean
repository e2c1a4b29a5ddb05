import Survey.Proofs.Cycles.Found

/-!
The turns of a whole search. What a turn pushes and what is not reached after it make up what was not
reached before, and the same holds of the successors that wait to be looked at. So by its end a search
has pushed every module once and looked at every successor once. Wherever it closes a cycle the parents
lead back to the module that the cycle starts from.
-/
namespace Survey.Cycles

namespace Descent

variable {nodes : List String} {next : String → List String} {d e : Descent} {n : Nat}

/-- The turns of a run of at most `n`, each with the search before and after it. -/
def history (next : String → List String) : Nat → Descent → List (Descent × Descent)
  | 0, _ => []
  | n + 1, d =>
    match d.step? next with
    | some e => (d, e) :: history next n e
    | none => []

theorem history_of_step (step : step? next d = some e) :
    history next (n + 1) d = (d, e) :: history next n e := by
  rw [history, step]

theorem history_of_ended (ended : step? next d = none) : history next n d = [] := by
  cases n with
  | zero => rfl
  | succ n => rw [history, ended]

theorem sound_of_mem_history (h : Sound nodes d) {turn : Descent × Descent}
    (member : turn ∈ history next n d) : Sound nodes turn.1 ∧ Moves next turn.1 turn.2 := by
  induction n generalizing d with
  | zero => cases member
  | succ n ih =>
      cases step : step? next d with
      | none =>
          rw [history_of_ended step] at member
          cases member
      | some e =>
          have moves := moves_of_step? step
          rw [history_of_step step] at member
          rcases List.mem_cons.mp member with rfl | later
          · exact ⟨h, moves⟩
          · exact ih (h.moves moves) later

def pushes (course : List (Descent × Descent)) : List String :=
  course.filterMap fun turn => pushed? turn.1 turn.2

def looks (course : List (Descent × Descent)) : List (String × String) :=
  course.filterMap fun turn => turn.1.looked?

/-- What a stock loses in each turn adds up to what it loses in a run. -/
theorem perm_history {α : Type} (stock : Descent → List α) (taken : Descent × Descent → Option α)
    (each : ∀ {d e}, Sound nodes d → Moves next d e →
      (stock d).Perm ((taken (d, e)).toList ++ stock e)) (h : Sound nodes d) :
    (stock d).Perm ((history next n d).filterMap taken ++ stock (run next n d)) := by
  induction n generalizing d with
  | zero => exact .refl _
  | succ n ih =>
      cases step : step? next d with
      | none =>
          rw [history_of_ended step, run_of_ended step]
          exact .refl _
      | some e =>
          have moves := moves_of_step? step
          have later := (ih (h.moves moves)).append_left (taken (d, e)).toList
          rw [history_of_step step, run_of_step step, List.filterMap_cons]
          refine (each h moves).trans (later.trans ?_)
          cases taken (d, e) <;> exact .refl _

theorem whites_of_ended (ended : step? next d = none) : d.whites = [] := by
  rw [whites, (step?_eq_none_iff.mp ended).1, List.filter_nil]

theorem waiting_of_ended (ended : step? next d = none) : d.waiting next = [] := by
  rw [waiting, whites_of_ended ended, (step?_eq_none_iff.mp ended).2]
  rfl

theorem colour?_eq_black_iff (h : Sound nodes d) (ended : step? next d = none) {id : String} :
    d.colour? id = some .black ↔ id ∈ nodes := by
  have noWhite : d.colour? id ≠ some .white := by
    rw [Ne, ← mem_whites h, whites_of_ended ended]
    exact List.not_mem_nil
  have noGray : d.colour? id ≠ some .gray := by
    rw [Ne, h.gray, opened, (step?_eq_none_iff.mp ended).2]
    exact List.not_mem_nil
  have known := h.coloured id
  cases colour : d.colour? id with
  | none =>
      rw [colour] at known
      exact iff_of_false (by simp) (known.mp rfl)
  | some c =>
      rw [colour] at known noWhite noGray
      have node : id ∈ nodes := Decidable.of_not_not fun other => by simpa using known.mpr other
      cases c with
      | white => exact absurd rfl noWhite
      | gray => exact absurd rfl noGray
      | black => exact iff_of_true rfl node

theorem perm_pushes (ascending : nodes.Pairwise (· < ·))
    (ended : step? next (run next n (start nodes)) = none) :
    nodes.Perm (pushes (history next n (start nodes))) := by
  have account : (start nodes).whites.Perm
      (pushes (history next n (start nodes)) ++ (run next n (start nodes)).whites) :=
    perm_history whites _ perm_whites (Sound.start ascending)
  rwa [whites_start ascending, whites_of_ended ended, List.append_nil] at account

theorem perm_looks (ascending : nodes.Pairwise (· < ·))
    (ended : step? next (run next n (start nodes)) = none) :
    (nodes.flatMap (entries next)).Perm (looks (history next n (start nodes))) := by
  have account : ((start nodes).waiting next).Perm
      (looks (history next n (start nodes)) ++ (run next n (start nodes)).waiting next) :=
    perm_history (waiting next) _ perm_waiting (Sound.start ascending)
  rwa [waiting_start ascending, waiting_of_ended ended, List.append_nil] at account

theorem mem_entries {u v : String} :
    (u, v) ∈ nodes.flatMap (entries next) ↔ u ∈ nodes ∧ v ∈ next u := by
  simp only [List.mem_flatMap, entries, List.mem_map, Prod.mk.injEq]
  constructor
  · rintro ⟨id, node, other, member, rfl, rfl⟩
    exact ⟨node, member⟩
  · rintro ⟨node, member⟩
    exact ⟨u, node, v, member, rfl, rfl⟩

theorem nodup_entries (apart : nodes.Nodup) (each : ∀ id, (next id).Nodup) :
    (nodes.flatMap (entries next)).Nodup := by
  refine List.nodup_flatMap.mpr ⟨fun id _ => ?_, apart.imp fun differs entry one other => differs ?_⟩
  · exact (each id).map fun _ _ same => (Prod.mk.inj same).2
  · obtain ⟨_, _, rfl⟩ := List.mem_map.mp one
    obtain ⟨_, _, same⟩ := List.mem_map.mp other
    exact (Prod.mk.inj same).1.symm

/-- A turn that looks at an open module closes a cycle, and the parents lead back to that module. -/
theorem leadsBack_of_looked (h : Sound nodes d) (step : Moves next d e) {u v : String}
    (looked : d.looked? = some (u, v)) (isGray : d.colour? v = some .gray) :
    ∃ path, LeadsBack d.parents v u path ∧ e.found = note d.found (v :: path.reverse ++ [v]) := by
  cases step with
  | root idle _ _ => simp [looked?, idle] at looked
  | skip idle _ _ => simp [looked?, idle] at looked
  | finish top => simp [looked?, top] at looked
  | enter top isWhite =>
      obtain ⟨rfl, rfl⟩ := Prod.mk.inj (Option.some.inj ((looked?_of_top top).symm.trans looked))
      rw [isWhite] at isGray
      cases isGray
  | close top _ =>
      obtain ⟨rfl, rfl⟩ := Prod.mk.inj (Option.some.inj ((looked?_of_top top).symm.trans looked))
      obtain ⟨back, rebuilt⟩ := h.leadsBack top isGray
      refine ⟨_, back, ?_⟩
      rw [close, rebuilt, closing]
  | pass top _ notGray =>
      obtain ⟨rfl, rfl⟩ := Prod.mk.inj (Option.some.inj ((looked?_of_top top).symm.trans looked))
      exact absurd isGray notGray

end Descent

open Descent

/-- The search among modules after `n` turns. -/
def searched (ids : List String) (arcs : List Arc) (n : Nat) : Descent :=
  run (successors arcs) n (start (Sorted.distinct ids))

/-- The turns of the search among modules, up to `n` of them. -/
def course (ids : List String) (arcs : List Arc) (n : Nat) : List (Descent × Descent) :=
  history (successors arcs) n (start (Sorted.distinct ids))

/-- What the turns of a whole search have done, and what it ends with. -/
structure Exhaustive (ids : List String) (arcs : List Arc) (course : List (Descent × Descent))
    (last : Descent) : Prop where
  found : last.found = find ids arcs
  pushesOnce : (pushes course).Nodup
  pushesAll : ∀ id, id ∈ pushes course ↔ id ∈ ids
  black : ∀ id, last.colour? id = some .black ↔ id ∈ ids
  looksOnce : (looks course).Nodup
  looksAll : ∀ u v, (u, v) ∈ looks course ↔
    u ∈ ids ∧ ∃ arc ∈ arcs, arc.kind ≠ .typeOnly ∧ arc.source = u ∧ arc.target = v
  /-- A cycle is closed by going back along parents, none of which is missing. -/
  closes : ∀ turn ∈ course, ∀ u v, turn.1.looked? = some (u, v) → turn.1.colour? v = some .gray →
    ∃ path, LeadsBack turn.1.parents v u path ∧
      turn.2.found = note turn.1.found (v :: path.reverse ++ [v])

/-- The search among any modules ends after exactly as many turns as there are roots to try, successors
to look at and modules to finish, and by then it has pushed each module and looked at each successor
once. -/
theorem search_exhaustive (ids : List String) (arcs : List Arc) :
    (∀ n, (searched ids arcs n).step? (successors arcs) = none ↔
      turns (successors arcs) (Sorted.distinct ids) ≤ n) ∧
    Exhaustive ids arcs (course ids arcs (turns (successors arcs) (Sorted.distinct ids)))
      (searched ids arcs (turns (successors arcs) (Sorted.distinct ids))) := by
  have ascending := Sorted.ascending_distinct ids
  have sound := Sound.start ascending
  have ends : ∀ n, (searched ids arcs n).step? (successors arcs) = none ↔
      turns (successors arcs) (Sorted.distinct ids) ≤ n := by
    intro n
    rw [searched, step?_run_eq_none_iff sound, remaining_start ascending]
  have ended := (ends _).mpr (Nat.le_refl _)
  have pushed := perm_pushes ascending ended
  have looked := perm_looks ascending ended
  refine ⟨ends, rfl, ?_, ?_, ?_, ?_, ?_, ?_⟩
  · exact pushed.nodup_iff.mp (Sorted.nodup_distinct ids)
  · intro id
    exact pushed.mem_iff.symm.trans Sorted.mem_distinct
  · intro id
    exact (colour?_eq_black_iff sound.run ended).trans Sorted.mem_distinct
  · exact looked.nodup_iff.mp
      (nodup_entries (Sorted.nodup_distinct ids) fun _ => Sorted.nodup_distinct _)
  · intro u v
    rw [← mem_successors, ← Sorted.mem_distinct, ← mem_entries]
    exact looked.mem_iff.symm
  · intro turn member u v
    obtain ⟨before, moves⟩ := sound_of_mem_history sound member
    exact leadsBack_of_looked before moves

theorem rings_searched_once :
    (∃ turn ∈ course ["b", "a", "c", "d", "e"] ringArcs 18,
      turn.1.looked? = some ("d", "c") ∧ turn.1.colour? "c" = some .gray) ∧
    (looks (course ["b", "a", "c", "d", "e"] ringArcs 18)).length = 8 ∧
    Exhaustive ["b", "a", "c", "d", "e"] ringArcs (course ["b", "a", "c", "d", "e"] ringArcs 18)
      (searched ["b", "a", "c", "d", "e"] ringArcs 18) := by
  have many : turns (successors ringArcs) (Sorted.distinct ["b", "a", "c", "d", "e"]) = 18 := by decide
  refine ⟨by decide, by decide, ?_⟩
  rw [← many]
  exact (search_exhaustive ["b", "a", "c", "d", "e"] ringArcs).2

end Survey.Cycles
