import Survey.Inspection.Exposure
import Survey.Proofs.Graph.Records

/-!
The search for libraries. A whole search is a relation between its queue, with the distance at which
every module was put there, the visited modules and the libraries found. It finds exactly the
libraries that are reached through libraries, nearer ones before those further away.
-/
namespace Survey.Exposure

/-- What a queue and the visited modules lead to when nothing is left in the queue. -/
inductive Sweep (g : Graph) : List (String × Nat) → List String → List (Library × Nat) → Prop
  | done {visited} : Sweep g [] visited []
  | again {id n queue visited found} : id ∈ visited → Sweep g queue visited found →
      Sweep g ((id, n) :: queue) visited found
  | other {id n queue visited found} : id ∉ visited → g.library? id = none →
      Sweep g queue (id :: visited) found → Sweep g ((id, n) :: queue) visited found
  | library {id n queue visited found l} : id ∉ visited → g.library? id = some l →
      Sweep g (queue ++ (g.dependencies id).map (·, n + 1)) (id :: visited) found →
      Sweep g ((id, n) :: queue) visited ((l, n) :: found)

variable {g : Graph} {file id : String} {l : Library} {n : Nat} {queue : List (String × Nat)}
  {visited : List String} {found : List (Library × Nat)}

/-- The distances in a queue ascend and differ by one at most. -/
def Layered (queue : List (String × Nat)) : Prop :=
  queue.Pairwise fun a b => a.2 ≤ b.2 ∧ b.2 ≤ a.2 + 1

theorem layered_map (next : List String) (n : Nat) : Layered (next.map (·, n)) := by
  rw [Layered, List.pairwise_map]
  exact List.pairwise_of_forall fun _ _ => ⟨Nat.le_refl _, Nat.le_succ _⟩

theorem Layered.push (h : Layered ((id, n) :: queue)) (next : List String) :
    Layered (queue ++ next.map (·, n + 1)) := by
  obtain ⟨near, rest⟩ := List.pairwise_cons.mp h
  refine List.pairwise_append.mpr ⟨rest, layered_map next (n + 1), ?_⟩
  intro a held b new
  obtain ⟨_, _, rfl⟩ := List.mem_map.mp new
  have bounds := near a held
  exact ⟨bounds.2, Nat.succ_le_succ bounds.1⟩

theorem Layered.tail {first : String × Nat} (h : Layered (first :: queue)) : Layered queue :=
  (List.pairwise_cons.mp h).2

namespace Sweep

/-- Only libraries are found, and what holds of the queue and goes on from a library to what it
imports, one step further away, holds of them. -/
theorem forall_found {P : String → Nat → Prop} (sweep : Sweep g queue visited found)
    (onward : ∀ {id n l further}, P id n → g.library? id = some l →
      further ∈ g.dependencies id → P further (n + 1))
    (queued : ∀ q ∈ queue, P q.1 q.2) :
    ∀ f ∈ found, g.library? f.1.file = some f.1 ∧ P f.1.file f.2 := by
  induction sweep with
  | done => intro f member; cases member
  | again _ _ ih => exact ih fun q member => queued q (List.mem_cons_of_mem _ member)
  | other _ _ _ ih => exact ih fun q member => queued q (List.mem_cons_of_mem _ member)
  | @library id n queue visited found l _ library _ ih =>
      have here : P id n := queued (id, n) List.mem_cons_self
      have named := Graph.file_of_library? library
      intro f member
      rcases List.mem_cons.mp member with rfl | later
      · exact ⟨named.symm ▸ library, named.symm ▸ here⟩
      · refine ih ?_ f later
        intro q held
        rcases List.mem_append.mp held with old | new
        · exact queued q (List.mem_cons_of_mem _ old)
        · obtain ⟨further, dependency, rfl⟩ := List.mem_map.mp new
          exact onward here library dependency

/-- Nothing is found nearer than the queue begins. -/
theorem le_first (sweep : Sweep g (queue ++ (g.dependencies id).map (·, n + 1)) visited found)
    (layered : Layered ((id, n) :: queue)) : ∀ f ∈ found, n ≤ f.2 := by
  have queued : ∀ q ∈ queue ++ (g.dependencies id).map (·, n + 1), n ≤ q.2 := by
    intro q held
    rcases List.mem_append.mp held with old | new
    · exact ((List.pairwise_cons.mp layered).1 q old).1
    · obtain ⟨_, _, rfl⟩ := List.mem_map.mp new
      exact Nat.le_succ n
  intro f member
  exact (sweep.forall_found (P := fun _ k => n ≤ k) (fun near _ _ => Nat.le_succ_of_le near)
    queued f member).2

/-- The libraries are found in the order of their distances. -/
theorem ascending (sweep : Sweep g queue visited found) (layered : Layered queue) :
    found.Pairwise fun a b => a.2 ≤ b.2 := by
  induction sweep with
  | done => exact .nil
  | again _ _ ih => exact ih layered.tail
  | other _ _ _ ih => exact ih layered.tail
  | library _ _ sweep ih =>
      exact List.pairwise_cons.mpr ⟨sweep.le_first layered, ih (layered.push _)⟩

end Sweep

end Survey.Exposure
