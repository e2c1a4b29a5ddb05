import Survey.Proofs.Cycles.Progress

/-!
The cycles found. There are some exactly when the runtime arcs among the modules have a cycle; each
is a simple cycle with members of its own; and the last links of all of them break every cycle.
-/
namespace Survey.Cycles
open Relation (ReflTransGen TransGen)

/-- One module of a list loads another: an arc that is not for types alone joins them. -/
def Loads (ids : List String) (arcs : List Arc) (a b : String) : Prop :=
  a ∈ ids ∧ b ∈ ids ∧ ∃ arc ∈ arcs, arc.kind ≠ .typeOnly ∧ arc.source = a ∧ arc.target = b

instance (ids : List String) (arcs : List Arc) (a b : String) : Decidable (Loads ids arcs a b) :=
  inferInstanceAs (Decidable (a ∈ ids ∧ b ∈ ids ∧
    ∃ arc ∈ arcs, arc.kind ≠ .typeOnly ∧ arc.source = a ∧ arc.target = b))

theorem mem_successors {arcs : List Arc} {a b : String} : b ∈ successors arcs a ↔
    ∃ arc ∈ arcs, arc.kind ≠ .typeOnly ∧ arc.source = a ∧ arc.target = b := by
  simp only [successors, Sorted.mem_distinct, List.mem_map, List.mem_filter, Bool.and_eq_true,
    beq_iff_eq, ArcKind.isRuntime, bne_iff_ne]
  constructor
  · rintro ⟨arc, ⟨member, source, runtime⟩, target⟩
    exact ⟨arc, member, runtime, source, target⟩
  · rintro ⟨arc, member, runtime, source, target⟩
    exact ⟨arc, ⟨member, source, runtime⟩, target⟩

theorem link_eq_loads (ids : List String) (arcs : List Arc) :
    Link (Sorted.distinct ids) (successors arcs) = Loads ids arcs := by
  funext a b
  apply propext
  simp only [Link, Loads, Sorted.mem_distinct, mem_successors]

theorem simpleCycle_of_mem_find {ids : List String} {arcs : List Arc} {c : List String}
    (member : c ∈ find ids arcs) : SimpleCycle (Loads ids arcs) c := by
  obtain ⟨order, met, swept, found⟩ := find_swept ids arcs
  rw [found] at member
  rw [← link_eq_loads]
  exact swept.cycles c (Search.mem_of_mem_kept member)

/-- Nothing is found exactly when no module loads itself, directly or through others. -/
theorem find_eq_nil_iff_acyclic (ids : List String) (arcs : List Arc) :
    find ids arcs = [] ↔ Acyclic (Loads ids arcs) := by
  constructor
  · intro nothing
    obtain ⟨order, met, swept, found⟩ := find_swept ids arcs
    have none : met = [] := Search.kept_eq_nil_iff.mp (found.symm.trans nothing)
    subst none
    apply (swept.acyclic (Sorted.nodup_distinct ids)).mono
    intro a b loads
    rw [← link_eq_loads] at loads
    exact ⟨loads, fun _ member => nomatch member⟩
  · intro acyclic
    apply List.eq_nil_iff_forall_not_mem.mpr
    intro c member
    exact acyclic_iff.mp acyclic c (simpleCycle_of_mem_find member).toClosedWalk

/-- What is found are simple cycles of loading modules, no two of them with the same members. -/
theorem find_simple_cycles (ids : List String) (arcs : List Arc) :
    (∀ c ∈ find ids arcs, SimpleCycle (Loads ids arcs) c ∧ ∀ id ∈ c, id ∈ ids) ∧
      (find ids arcs).Pairwise fun c d => ¬ ∀ id, id ∈ c ↔ id ∈ d := by
  constructor
  · intro c member
    have cycle := simpleCycle_of_mem_find member
    refine ⟨cycle, ?_⟩
    intro id held
    obtain ⟨_, loads⟩ := cycle.toClosedWalk.exists_step held
    exact loads.1
  · obtain ⟨order, met, _, found⟩ := find_swept ids arcs
    rw [found]
    refine List.Pairwise.imp ?_ (Search.pairwise_kept met)
    intro c d keys same
    exact keys (membersKey_eq_of_mem_iff same)

/-- Two rings, one of them with a module that loads itself; an arc that leaves the list, an arc given
twice and one for types alone, which closes nothing. -/
def ringArcs : List Arc :=
  [⟨"a", "b", .plain⟩, ⟨"b", "a", .dynamic⟩, ⟨"b", "c", .plain⟩, ⟨"c", "d", .reExport⟩,
    ⟨"c", "d", .plain⟩, ⟨"d", "c", .plain⟩, ⟨"d", "d", .plain⟩, ⟨"d", "x", .plain⟩,
    ⟨"d", "e", .plain⟩, ⟨"e", "a", .typeOnly⟩]

theorem ring_within_modules : ["c", "d", "c"] ∈ find ["a", "b", "c", "d", "e"] ringArcs ∧
    SimpleCycle (Loads ["a", "b", "c", "d", "e"] ringArcs) ["c", "d", "c"] := by
  have member : ["c", "d", "c"] ∈ find ["a", "b", "c", "d", "e"] ringArcs := by decide
  exact ⟨member, ((find_simple_cycles _ _).1 _ member).1⟩

/-- Where keys tell members apart, no cycle that a search meets is lost. -/
theorem Swept.mem_kept {nodes order : List String} {next : String → List String}
    {met : List (List String)} (h : Swept nodes next order met)
    (plain : ∀ id ∈ nodes, '|' ∉ id.toList) {c : List String} (member : c ∈ met) :
    c ∈ Search.kept met := by
  have walk : ∀ d ∈ met, ClosedWalk (Link nodes next) d := fun d held => (h.cycles d held).toClosedWalk
  have nonempty : ∀ d ∈ met, d ≠ [] := by
    rintro d held rfl
    exact (walk [] held).dropLast_ne_nil rfl
  have unmarked : ∀ d ∈ met, ∀ id ∈ d, '|' ∉ id.toList := by
    intro d held id part
    obtain ⟨_, link⟩ := (walk d held).exists_step part
    exact plain id link.1
  obtain ⟨d, kept, keys⟩ := Search.exists_kept_of_mem member
  have held := Search.mem_of_mem_kept kept
  have same := mem_iff_of_membersKey_eq (nonempty d held) (nonempty c member) (unmarked d held)
    (unmarked c member) keys
  exact h.apart d held c member same ▸ kept

theorem acyclic_without_closing_links {ids : List String} {arcs : List Arc}
    (plain : ∀ id ∈ ids, '|' ∉ id.toList) :
    Acyclic fun a b => Loads ids arcs a b ∧ ∀ c ∈ find ids arcs, ¬ [a, b] <:+ c := by
  obtain ⟨order, met, swept, found⟩ := find_swept ids arcs
  apply (swept.acyclic (Sorted.nodup_distinct ids)).mono
  rintro a b ⟨loads, unbroken⟩
  rw [← link_eq_loads] at loads
  refine ⟨loads, ?_⟩
  intro c member
  apply unbroken c
  rw [found]
  exact swept.mem_kept (fun id held => plain id (Sorted.mem_distinct.mp held)) member

theorem closing_link_of_closedWalk {ids : List String} {arcs : List Arc}
    (plain : ∀ id ∈ ids, '|' ∉ id.toList) {walk : List String}
    (w : ClosedWalk (Loads ids arcs) walk) :
    ∃ c ∈ find ids arcs, ∃ u v, [u, v] <:+ c ∧ [u, v] <:+: walk :=
  w.exists_last_link (acyclic_without_closing_links plain)

/-- When no module's name holds the mark of keys, every closed walk takes the last link of a cycle
found, the graph without these links has no cycle, and every module on a cycle shares its strongly
connected component with all members of a cycle found. -/
theorem closing_links_break_cycles (ids : List String) (arcs : List Arc)
    (plain : ∀ id ∈ ids, '|' ∉ id.toList) :
    (∀ walk, ClosedWalk (Loads ids arcs) walk →
      ∃ c ∈ find ids arcs, ∃ u v, [u, v] <:+ c ∧ [u, v] <:+: walk) ∧
    (Acyclic fun a b => Loads ids arcs a b ∧ ∀ c ∈ find ids arcs, ¬ [a, b] <:+ c) ∧
    ∀ a, TransGen (Loads ids arcs) a a → ∃ c ∈ find ids arcs, ∀ b ∈ c,
      ReflTransGen (Loads ids arcs) a b ∧ ReflTransGen (Loads ids arcs) b a := by
  refine ⟨fun walk w => closing_link_of_closedWalk plain w, acyclic_without_closing_links plain, ?_⟩
  intro a loop
  obtain ⟨walk, w, onWalk⟩ := exists_closedWalk loop
  obtain ⟨c, member, u, v, last, taken⟩ := closing_link_of_closedWalk plain w
  have cycle := (simpleCycle_of_mem_find member).toClosedWalk
  have walked : u ∈ walk := taken.mem List.mem_cons_self
  have held : u ∈ c := last.mem List.mem_cons_self
  refine ⟨c, member, ?_⟩
  intro b part
  exact ⟨(w.reach onWalk walked).trans (cycle.reach held part),
    (cycle.reach part held).trans (w.reach walked onWalk)⟩

theorem ring_crosses_closing_link : (∀ id ∈ ["a", "b", "c", "d", "e"], '|' ∉ id.toList) ∧
    ClosedWalk (Loads ["a", "b", "c", "d", "e"] ringArcs) ["d", "d", "c", "d"] ∧
    ∃ c ∈ find ["a", "b", "c", "d", "e"] ringArcs,
      ∃ u v, [u, v] <:+ c ∧ [u, v] <:+: ["d", "d", "c", "d"] := by
  have plain : ∀ id ∈ ["a", "b", "c", "d", "e"], '|' ∉ id.toList := by decide
  have walk : ClosedWalk (Loads ["a", "b", "c", "d", "e"] ringArcs) ["d", "d", "c", "d"] :=
    ⟨by decide, rfl, by decide⟩
  exact ⟨plain, walk, (closing_links_break_cycles _ _ plain).1 _ walk⟩

end Survey.Cycles
