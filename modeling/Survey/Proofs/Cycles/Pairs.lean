import Survey.Proofs.Cycles.Found

/-!
What a search for cycles depends on. Arcs that lead out of the modules are looked at and passed over,
so the search closes the same cycles without them; and among the modules it sees every pair once and
in order, however many arcs make the pair, of whatever kind and in whatever order they are given.
-/
namespace Survey.Cycles
open Relation (ReflTransGen)

namespace Search

variable {nodes : List String} {next inner : String → List String} {s t : Search}

/-- An open module that waits to look at nodes only. -/
def narrow (nodes : List String) (entry : String × List String) : String × List String :=
  (entry.1, entry.2.filter (· ∈ nodes))

/-- A search that waits to look at nodes only. -/
def within (nodes : List String) (s : Search) : Search :=
  { s with stack := s.stack.map (narrow nodes) }

theorem within_of_ended (noOpen : s.stack = []) : s.within nodes = s := by
  rcases s with ⟨fresh, stack, found⟩
  cases noOpen
  rfl

theorem map_fst_narrow (nodes : List String) (stack : List (String × List String)) :
    (stack.map (narrow nodes)).map Prod.fst = stack.map Prod.fst := by
  rw [List.map_map]
  rfl

theorem narrow_cons_of_mem {u v : String} {rest : List String} (node : v ∈ nodes) :
    narrow nodes (u, v :: rest) = (u, v :: rest.filter (· ∈ nodes)) := by
  simp [narrow, node]

theorem narrow_cons_of_not_mem {u v : String} {rest : List String} (foreign : v ∉ nodes) :
    narrow nodes (u, v :: rest) = narrow nodes (u, rest) := by
  simp [narrow, foreign]

/-- What a search does at its nodes it does without the other successors; what it does at those is
nothing. -/
theorem moves_within (inside : ∀ id, id ∈ s.opened ∨ id ∈ s.fresh → id ∈ nodes)
    (agree : ∀ id ∈ nodes, inner id = (next id).filter (· ∈ nodes)) (h : Moves next s t) :
    t.within nodes = s.within nodes ∨ Moves inner (s.within nodes) (t.within nodes) := by
  have opens : ∀ id ∈ nodes, narrow nodes (id, next id) = (id, inner id) := by
    intro id node
    rw [narrow, agree id node]
  cases h with
  | @root r fresh found =>
      right
      simp only [within, List.map_cons, opens r (inside r (Or.inr List.mem_cons_self))]
      exact .root
  | finish => exact Or.inr .finish
  | @enter fresh u v rest below found isFresh =>
      right
      have node := inside v (Or.inr isFresh)
      simp only [within, List.map_cons, narrow_cons_of_mem node, opens v node]
      exact .enter isFresh
  | @close fresh u v rest below found notFresh isOpen =>
      right
      simp only [within, List.map_cons, narrow_cons_of_mem (inside v (Or.inl isOpen))]
      rw [← map_fst_narrow nodes below] at isOpen ⊢
      exact .close notFresh isOpen
  | @pass fresh u v rest below found notFresh notOpen =>
      by_cases node : v ∈ nodes
      · right
        simp only [within, List.map_cons, narrow_cons_of_mem node]
        rw [← map_fst_narrow nodes below] at notOpen
        exact .pass notFresh notOpen
      · left
        simp only [within, List.map_cons, narrow_cons_of_not_mem node]

theorem reach_within (nodup : nodes.Nodup)
    (agree : ∀ id ∈ nodes, inner id = (next id).filter (· ∈ nodes))
    (run : ReflTransGen (Moves next) ⟨nodes, [], []⟩ t) :
    ReflTransGen (Moves inner) ⟨nodes, [], []⟩ (t.within nodes) := by
  induction run with
  | refl => exact .refl
  | @tail t u before step ih =>
      -- What is open or fresh is always a node, so only a pass meets anything else.
      obtain ⟨_, _, progress⟩ := (Progress.start nodes next).reach nodup before
      have inside : ∀ id, id ∈ t.opened ∨ id ∈ t.fresh → id ∈ nodes :=
        fun id held => progress.mem_nodes.mpr (Or.inr held)
      rcases moves_within inside agree step with still | moved
      · exact still ▸ ih
      · exact ih.tail moved

/-- Successors that are no nodes may be left out beforehand. -/
theorem found_within (nodup : nodes.Nodup)
    (agree : ∀ id ∈ nodes, inner id = (next id).filter (· ∈ nodes)) :
    (run next (remaining next ⟨nodes, [], []⟩) ⟨nodes, [], []⟩).found =
      (run inner (remaining inner ⟨nodes, [], []⟩) ⟨nodes, [], []⟩).found := by
  have ends := run_ends next ⟨nodes, [], []⟩
  have narrowed := reach_within nodup agree (reach_run next (remaining next ⟨nodes, [], []⟩) _)
  rw [within_of_ended ends.2] at narrowed
  rw [run_eq_of_reach narrowed (step?_eq_none_iff.mpr ends) (Nat.le_refl _)]

theorem found_congr {other : String → List String} (nodup : nodes.Nodup)
    (agree : ∀ id ∈ nodes, (next id).filter (· ∈ nodes) = (other id).filter (· ∈ nodes)) :
    (run next (remaining next ⟨nodes, [], []⟩) ⟨nodes, [], []⟩).found =
      (run other (remaining other ⟨nodes, [], []⟩) ⟨nodes, [], []⟩).found := by
  have first := @found_within nodes next (fun id => (next id).filter (· ∈ nodes)) nodup
    fun _ _ => rfl
  have second := found_within nodup agree
  exact first.trans second.symm

end Search

variable {ids : List String} {arcs more : List Arc}

/-- Ascending successors are known from their members. -/
theorem filter_successors_eq {nodes : List String} {a : String}
    (pairs : ∀ b ∈ nodes, b ∈ successors arcs a ↔ b ∈ successors more a) :
    (successors arcs a).filter (· ∈ nodes) = (successors more a).filter (· ∈ nodes) := by
  have ascending (list : List Arc) : Sorted.Ascending id ((successors list a).filter (· ∈ nodes)) :=
    List.Pairwise.filter _ (Sorted.ascending_distinct _)
  apply (ascending arcs).eq_of_members (ascending more)
  intro b
  simp only [List.mem_filter, decide_eq_true_eq]
  exact ⟨fun held => ⟨(pairs b held.2).mp held.1, held.2⟩,
    fun held => ⟨(pairs b held.2).mpr held.1, held.2⟩⟩

theorem mem_successors_iff_loads {a b : String} (ha : a ∈ ids) (hb : b ∈ ids) :
    b ∈ successors arcs a ↔ Loads ids arcs a b := by
  rw [mem_successors, Loads]
  exact ⟨fun arc => ⟨ha, hb, arc⟩, fun loads => loads.2.2⟩

/-- The cycles found depend on the ids of the modules and on which of them load which, and on nothing
else of a graph: neither on the order, the number and the kind of the arcs between two modules, nor
on arcs for types alone or to and from other ids. -/
theorem cycles_of_loading_pairs (g h : Graph) (same : ∀ id, id ∈ g.ids ↔ id ∈ h.ids)
    (pairs : ∀ a ∈ g.ids, ∀ b ∈ g.ids, Loads g.ids g.arcs a b ↔ Loads h.ids h.arcs a b) :
    find g.ids g.arcs = find h.ids h.arcs := by
  have nodes : Sorted.distinct g.ids = Sorted.distinct h.ids :=
    Sorted.distinct_eq_distinct_iff.mpr same
  have agree : ∀ a ∈ Sorted.distinct g.ids,
      (successors g.arcs a).filter (· ∈ Sorted.distinct g.ids) =
        (successors h.arcs a).filter (· ∈ Sorted.distinct g.ids) := by
    intro a node
    apply filter_successors_eq
    intro b target
    rw [Sorted.mem_distinct] at node target
    rw [mem_successors_iff_loads node target, pairs a node b target,
      mem_successors_iff_loads ((same a).mp node) ((same b).mp target)]
  rw [find_eq_search, find_eq_search, ← nodes]
  exact Search.found_congr (Sorted.nodup_distinct g.ids) agree

def tidyGraph : Graph where
  modules := [{ path := "a" }, { path := "b" }, { path := "c" }]
  arcs := [⟨"a", "b", .plain⟩, ⟨"b", "a", .plain⟩, ⟨"b", "c", .plain⟩, ⟨"c", "c", .plain⟩]

/-- The same pairs in another order and of other kinds, some of them twice, with arcs for types alone
that close a further ring and with arcs to and from an id that is no module. -/
def wildGraph : Graph where
  modules := [{ path := "c", lineCount := 7 }, { path := "b" }, { path := "a" }]
  arcs := [⟨"c", "c", .dynamic⟩, ⟨"b", "x", .plain⟩, ⟨"b", "c", .reExport⟩, ⟨"x", "b", .plain⟩,
    ⟨"b", "a", .dynamic⟩, ⟨"c", "a", .typeOnly⟩, ⟨"a", "b", .reExport⟩, ⟨"b", "a", .plain⟩]

theorem wildGraph_cycles_alike :
    (∀ a ∈ tidyGraph.ids, ∀ b ∈ tidyGraph.ids,
      Loads tidyGraph.ids tidyGraph.arcs a b ↔ Loads wildGraph.ids wildGraph.arcs a b) ∧
    find wildGraph.ids wildGraph.arcs = [["a", "b", "a"], ["c", "c"]] := by
  have same : ∀ id, id ∈ tidyGraph.ids ↔ id ∈ wildGraph.ids := fun _ => List.mem_reverse.symm
  have pairs : ∀ a ∈ tidyGraph.ids, ∀ b ∈ tidyGraph.ids,
      Loads tidyGraph.ids tidyGraph.arcs a b ↔ Loads wildGraph.ids wildGraph.arcs a b := by decide
  refine ⟨pairs, ?_⟩
  rw [← cycles_of_loading_pairs tidyGraph wildGraph same pairs]
  decide

end Survey.Cycles
