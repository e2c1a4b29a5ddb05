import Mathlib.Data.List.Perm.Basic
import Survey.Proofs.Cycles.Descent
import Survey.Proofs.Cycles.Kept
import Survey.Proofs.Walk

/-!
What holds of a search at every moment. Its nodes are finished, open or fresh; the open ones form a
path; and a link of a finished node leads to one finished before, unless it closed a cycle.
-/
namespace Survey.Cycles
open Relation (ReflTransGen)

/-- A link of the searched graph: both ends are nodes, and the second is a successor of the first. -/
def Link (nodes : List String) (next : String → List String) (a b : String) : Prop :=
  a ∈ nodes ∧ b ∈ nodes ∧ b ∈ next a

/-- A link that is the last one of no cycle met. -/
def Unmet (nodes : List String) (next : String → List String) (met : List (List String))
    (a b : String) : Prop :=
  Link nodes next a b ∧ ∀ c ∈ met, ¬ [a, b] <:+ c

theorem Unmet.of_append {nodes : List String} {next : String → List String}
    {met more : List (List String)} {a b : String} (h : Unmet nodes next (met ++ more) a b) :
    Unmet nodes next met a b :=
  ⟨h.1, fun c member => h.2 c (List.mem_append_left more member)⟩

section Closing

variable {nodes opened p q : List String} {next : String → List String} {u v : String}

theorem closing_append (first : v ∉ p) : closing (p ++ v :: q) v = v :: (p.reverse ++ [v]) := by
  have passed : ∀ id ∈ p, decide (id ≠ v) = true := by
    intro id member
    exact decide_eq_true fun same => first (same ▸ member)
  have taken : (p ++ v :: q).takeWhile (· ≠ v) = p := by
    rw [List.takeWhile_append_of_pos passed, List.takeWhile_cons]
    simp only [ne_eq, not_true_eq_false, decide_false, Bool.false_eq_true, if_false, List.append_nil]
  simp only [closing, taken, List.cons_append]

/-- The members of a cycle are the part of the open path that its closing link spans. -/
theorem closing_placed (isOpen : v ∈ opened) : (closing opened v).dropLast.reverse <+: opened := by
  obtain ⟨p, q, rfl, first⟩ := List.eq_append_cons_of_mem isOpen
  rw [closing_append first, ← List.cons_append, List.dropLast_concat, List.reverse_cons,
    List.reverse_reverse]
  exact ⟨q, by rw [List.append_assoc, List.singleton_append]⟩

theorem closing_last (isOpen : v ∈ opened) (inner : opened.head? = some u) :
    [u, v] <:+ closing opened v := by
  obtain ⟨p, q, rfl, first⟩ := List.eq_append_cons_of_mem isOpen
  rw [closing_append first]
  cases p with
  | nil =>
      cases inner
      exact List.suffix_refl _
  | cons x p =>
      cases inner
      rw [List.reverse_cons, List.append_assoc, List.singleton_append]
      exact ⟨v :: p.reverse, by rw [List.cons_append]⟩

theorem closing_cycle (path : opened.IsChain fun w x => Link nodes next x w)
    (nodup : opened.Nodup) (inner : opened.head? = some u) (isOpen : v ∈ opened)
    (link : Link nodes next u v) : SimpleCycle (Link nodes next) (closing opened v) := by
  have placed := closing_placed isOpen
  obtain ⟨p, q, rfl, first⟩ := List.eq_append_cons_of_mem isOpen
  have shape := closing_append (q := q) first
  have part : (v :: p.reverse).reverse <+: p ++ v :: q := by
    rw [shape, ← List.cons_append, List.dropLast_concat] at placed
    exact placed
  have linked : (v :: p.reverse).IsChain (Link nodes next) := by
    apply List.isChain_reverse.mp
    exact path.prefix part
  have last : (v :: p.reverse).getLast? = some u := by
    rw [List.getLast?_eq_head?_reverse, ← inner]
    cases p with
    | nil => rfl
    | cons x p => simp
  refine ⟨closedWalk_iff.mpr ⟨v, p.reverse, shape, ?_⟩, ?_⟩
  · rw [← List.cons_append]
    apply linked.append (List.IsChain.singleton v)
    intro a ha b hb
    rw [last] at ha
    cases ha
    cases hb
    exact link
  · rw [shape, ← List.cons_append, List.dropLast_concat, ← List.nodup_reverse]
    exact part.sublist.nodup nodup

/-- Two cycles along one path are the same cycle when they have the same members. -/
theorem eq_of_within {r : String → String → Prop} {c d : List String} (hc : ClosedWalk r c)
    (hd : ClosedWalk r d) (nodup : opened.Nodup) (cWithin : c.dropLast.reverse <:+: opened)
    (dWithin : d.dropLast.reverse <:+: opened) (same : ∀ id, id ∈ c ↔ id ∈ d) : c = d := by
  have perm : c.dropLast.reverse.Perm d.dropLast.reverse := by
    apply (List.perm_ext_iff_of_nodup (cWithin.sublist.nodup nodup)
      (dWithin.sublist.nodup nodup)).mpr
    intro id
    rw [List.mem_reverse, List.mem_reverse, hc.mem_dropLast, hd.mem_dropLast]
    exact same id
  have parts := (nodup.perm_iff_eq_of_sublist cWithin.sublist dWithin.sublist).mp perm
  exact hc.eq_of_dropLast hd (List.reverse_injective parts)

end Closing

/-- Every step from an open node waits to be looked at or leads to what is finished before the node:
the nodes of `later` and the open ones further in. -/
def Awaits (r : String → String → Prop) : List String → List (String × List String) → Prop
  | _, [] => True
  | later, (u, rest) :: below =>
      (∀ b, r u b → b ∈ rest ∨ b ∈ later) ∧ Awaits r (u :: later) below

theorem Awaits.mono {r s : String → String → Prop} (h : ∀ a b, s a b → r a b)
    {later more : List String} (wider : later ⊆ more) {stack : List (String × List String)}
    (w : Awaits r later stack) : Awaits s more stack := by
  induction stack generalizing later more with
  | nil => trivial
  | cons entry below ih =>
      refine ⟨?_, ih (List.cons_subset_cons entry.1 wider) w.2⟩
      intro b step
      exact (w.1 b (h entry.1 b step)).imp_right fun member => wider member

/-- A search on its way: `done` are the finished nodes from the last one back, and `met` the cycles
closed so far, whether noted or not. -/
structure Progress (nodes : List String) (next : String → List String) (done : List String)
    (met : List (List String)) (s : Search) : Prop where
  parts : (done ++ (s.opened ++ s.fresh)).Perm nodes
  path : s.opened.IsChain fun v u => Link nodes next u v
  pending : ∀ entry ∈ s.stack, ∀ v ∈ entry.2, v ∈ next entry.1
  ordered : Descends (Unmet nodes next met) done
  awaited : Awaits (Unmet nodes next met) done s.stack
  kept : s.found = Search.kept met
  cycles : ∀ c ∈ met, SimpleCycle (Link nodes next) c
  /-- A cycle lies along the open path until one of its members is finished. -/
  placed : ∀ c ∈ met, c.dropLast.reverse <:+: s.opened ∨ ∃ id ∈ c, id ∈ done
  apart : ∀ c ∈ met, ∀ d ∈ met, (∀ id, id ∈ c ↔ id ∈ d) → c = d

namespace Progress

variable {nodes done fresh rest : List String} {next : String → List String}
  {met found : List (List String)} {below : List (String × List String)} {s t : Search}
  {r u v : String}

theorem mem_nodes (h : Progress nodes next done met s) {id : String} :
    id ∈ nodes ↔ id ∈ done ∨ id ∈ s.opened ∨ id ∈ s.fresh := by
  rw [← h.parts.mem_iff, List.mem_append, List.mem_append]

theorem nodup_parts (h : Progress nodes next done met s) (nodup : nodes.Nodup) :
    (done ++ (s.opened ++ s.fresh)).Nodup :=
  h.parts.nodup_iff.mpr nodup

theorem nodup_opened (h : Progress nodes next done met s) (nodup : nodes.Nodup) :
    s.opened.Nodup :=
  (List.nodup_append.mp (List.nodup_append.mp (h.nodup_parts nodup)).2.1).1

theorem not_done_of_opened (h : Progress nodes next done met s) (nodup : nodes.Nodup) {id : String}
    (isOpen : id ∈ s.opened) : id ∉ done := by
  intro isDone
  exact (List.nodup_append.mp (h.nodup_parts nodup)).2.2 id isDone id
    (List.mem_append_left s.fresh isOpen) rfl

/-- A link that the innermost open node still has to look at. -/
theorem link_of_pending (h : Progress nodes next done met ⟨fresh, (u, v :: rest) :: below, found⟩)
    (node : v ∈ nodes) : Link nodes next u v := by
  refine ⟨h.mem_nodes.mpr (Or.inr (Or.inl List.mem_cons_self)), node, ?_⟩
  exact h.pending (u, v :: rest) List.mem_cons_self v List.mem_cons_self

theorem pending_rest (h : Progress nodes next done met ⟨fresh, (u, v :: rest) :: below, found⟩) :
    ∀ entry ∈ (u, rest) :: below, ∀ w ∈ entry.2, w ∈ next entry.1 := by
  intro entry member w waits
  rcases List.mem_cons.mp member with rfl | member
  · exact h.pending (u, v :: rest) List.mem_cons_self w (List.mem_cons_of_mem v waits)
  · exact h.pending entry (List.mem_cons_of_mem _ member) w waits

theorem start (nodes : List String) (next : String → List String) :
    Progress nodes next [] [] ⟨nodes, [], []⟩ where
  parts := List.Perm.refl nodes
  path := List.IsChain.nil
  pending := fun _ member => nomatch member
  ordered := trivial
  awaited := trivial
  kept := rfl
  cycles := fun _ member => nomatch member
  placed := fun _ member => nomatch member
  apart := fun _ member => nomatch member

theorem root (h : Progress nodes next done met ⟨r :: fresh, [], found⟩) :
    Progress nodes next done met ⟨fresh, [(r, next r)], found⟩ where
  parts := h.parts
  path := List.IsChain.singleton r
  pending := by
    intro entry member v waits
    cases List.mem_singleton.mp member
    exact waits
  ordered := h.ordered
  awaited := ⟨fun b unmet => Or.inl unmet.1.2.2, trivial⟩
  kept := h.kept
  cycles := h.cycles
  placed := by
    intro c member
    rcases h.placed c member with within | finished
    · exact Or.inl (within.trans List.nil_infix)
    · exact Or.inr finished
  apart := h.apart

theorem finish (h : Progress nodes next done met ⟨fresh, (u, []) :: below, found⟩) :
    Progress nodes next (u :: done) met ⟨fresh, below, found⟩ where
  parts := List.perm_middle.symm.trans h.parts
  path := h.path.tail
  pending := fun entry member => h.pending entry (List.mem_cons_of_mem (u, []) member)
  ordered := ⟨fun b unmet => (h.awaited.1 b unmet).resolve_left List.not_mem_nil, h.ordered⟩
  awaited := h.awaited.2
  kept := h.kept
  cycles := h.cycles
  placed := by
    intro c member
    rcases h.placed c member with within | ⟨id, held, finished⟩
    · rcases List.infix_cons_iff.mp within with atTop | deeper
      · -- a cycle that begins at the finished node loses its place with it
        have walk := (h.cycles c member).toClosedWalk
        rcases List.prefix_cons_iff.mp atTop with none | ⟨_, top, _⟩
        · exact absurd (List.reverse_eq_nil_iff.mp none) walk.dropLast_ne_nil
        · have held : u ∈ c.dropLast.reverse := top ▸ List.mem_cons_self
          exact Or.inr ⟨u, walk.mem_dropLast.mp (List.mem_reverse.mp held), List.mem_cons_self⟩
      · exact Or.inl deeper
    · exact Or.inr ⟨id, held, List.mem_cons_of_mem u finished⟩
  apart := h.apart

theorem enter (h : Progress nodes next done met ⟨fresh, (u, v :: rest) :: below, found⟩)
    (isFresh : v ∈ fresh) :
    Progress nodes next done met ⟨fresh.erase v, (v, next v) :: (u, rest) :: below, found⟩ where
  parts := by
    have taken := (List.perm_cons_erase isFresh).symm
    have moved := List.perm_middle.symm.trans (taken.append_left (u :: below.map Prod.fst))
    exact (moved.append_left done).trans h.parts
  path := .cons_cons (h.link_of_pending (h.mem_nodes.mpr (Or.inr (Or.inr isFresh)))) h.path
  pending := by
    intro entry member w waits
    rcases List.mem_cons.mp member with rfl | member
    · exact waits
    · exact h.pending_rest entry member w waits
  ordered := h.ordered
  awaited := by
    refine ⟨fun b unmet => Or.inl unmet.1.2.2, ?_, ?_⟩
    · intro b unmet
      rcases h.awaited.1 b unmet with waits | finished
      · rcases List.mem_cons.mp waits with rfl | waits
        · exact Or.inr List.mem_cons_self
        · exact Or.inl waits
      · exact Or.inr (List.mem_cons_of_mem v finished)
    · apply h.awaited.2.mono (fun _ _ unmet => unmet)
      exact List.cons_subset_cons u (List.subset_cons_self v done)
  kept := h.kept
  cycles := h.cycles
  placed := fun c member => (h.placed c member).imp_left List.infix_cons
  apart := h.apart

/-- The next link of the innermost node is done with once it asks for nothing more. -/
theorem look (h : Progress nodes next done met ⟨fresh, (u, v :: rest) :: below, found⟩)
    (settled : Unmet nodes next met u v → v ∈ done) :
    Progress nodes next done met ⟨fresh, (u, rest) :: below, found⟩ where
  parts := h.parts
  path := h.path
  pending := h.pending_rest
  ordered := h.ordered
  awaited := by
    refine ⟨?_, h.awaited.2⟩
    intro b unmet
    rcases h.awaited.1 b unmet with waits | finished
    · rcases List.mem_cons.mp waits with rfl | waits
      · exact Or.inr (settled unmet)
      · exact Or.inl waits
    · exact Or.inr finished
  kept := h.kept
  cycles := h.cycles
  placed := h.placed
  apart := h.apart

/-- Only the cycle itself was met before with the members of a cycle along the open path. -/
theorem eq_of_same_members (h : Progress nodes next done met s) (nodup : nodes.Nodup)
    {c d : List String} (cycle : SimpleCycle (Link nodes next) c)
    (within : c.dropLast.reverse <:+: s.opened) (earlier : d ∈ met)
    (same : ∀ id, id ∈ d ↔ id ∈ c) : d = c := by
  have walk := (h.cycles d earlier).toClosedWalk
  rcases h.placed d earlier with dWithin | ⟨id, held, finished⟩
  · exact eq_of_within walk cycle.toClosedWalk (h.nodup_opened nodup) dWithin within same
  · have part : id ∈ c.dropLast.reverse :=
      List.mem_reverse.mpr (cycle.toClosedWalk.mem_dropLast.mpr ((same id).mp held))
    exact absurd finished (h.not_done_of_opened nodup (within.mem part))

theorem meet (h : Progress nodes next done met s) (nodup : nodes.Nodup) {c : List String}
    (cycle : SimpleCycle (Link nodes next) c) (within : c.dropLast.reverse <:+: s.opened) :
    Progress nodes next done (met ++ [c]) { s with found := note s.found c } where
  parts := h.parts
  path := h.path
  pending := h.pending
  ordered := h.ordered.mono fun _ _ unmet => unmet.of_append
  awaited := h.awaited.mono (fun _ _ unmet => unmet.of_append) fun _ member => member
  kept := by rw [Search.kept_concat, h.kept]
  cycles := by
    intro d member
    rcases List.mem_append.mp member with earlier | new
    · exact h.cycles d earlier
    · cases List.mem_singleton.mp new
      exact cycle
  placed := by
    intro d member
    rcases List.mem_append.mp member with earlier | new
    · exact h.placed d earlier
    · cases List.mem_singleton.mp new
      exact Or.inl within
  apart := by
    intro d member e other same
    rcases List.mem_append.mp member with dEarlier | dNew
    · rcases List.mem_append.mp other with eEarlier | eNew
      · exact h.apart d dEarlier e eEarlier same
      · cases List.mem_singleton.mp eNew
        exact h.eq_of_same_members nodup cycle within dEarlier same
    · cases List.mem_singleton.mp dNew
      rcases List.mem_append.mp other with eEarlier | eNew
      · have back := h.eq_of_same_members nodup cycle within eEarlier fun id => (same id).symm
        exact back.symm
      · exact (List.mem_singleton.mp eNew).symm

theorem close (h : Progress nodes next done met ⟨fresh, (u, v :: rest) :: below, found⟩)
    (nodup : nodes.Nodup) (isOpen : v ∈ u :: below.map Prod.fst) :
    Progress nodes next done (met ++ [closing (u :: below.map Prod.fst) v])
      ⟨fresh, (u, rest) :: below, note found (closing (u :: below.map Prod.fst) v)⟩ := by
  have link : Link nodes next u v :=
    h.link_of_pending (h.mem_nodes.mpr (Or.inr (Or.inl isOpen)))
  have cycle := closing_cycle h.path (h.nodup_opened nodup) rfl isOpen link
  apply (h.meet nodup cycle (closing_placed isOpen).isInfix).look
  intro unmet
  have new := List.mem_append_right met (List.mem_singleton_self (closing (u :: below.map Prod.fst) v))
  exact absurd (closing_last isOpen rfl) (unmet.2 _ new)

theorem pass (h : Progress nodes next done met ⟨fresh, (u, v :: rest) :: below, found⟩)
    (notFresh : v ∉ fresh) (notOpen : v ∉ u :: below.map Prod.fst) :
    Progress nodes next done met ⟨fresh, (u, rest) :: below, found⟩ := by
  apply h.look
  intro unmet
  rcases h.mem_nodes.mp unmet.1.2.1 with finished | isOpen | isFresh
  · exact finished
  · exact absurd isOpen notOpen
  · exact absurd isFresh notFresh

theorem step (h : Progress nodes next done met s) (nodup : nodes.Nodup)
    (moves : Search.Moves next s t) :
    ∃ done, Progress nodes next done (met ++ s.closes?.toList) t := by
  have nothing : met ++ Option.toList none = met := List.append_nil met
  cases moves with
  | root => exact ⟨_, nothing.symm ▸ h.root⟩
  | finish => exact ⟨_, nothing.symm ▸ h.finish⟩
  | enter isFresh =>
      rw [Search.closes?_of_fresh isFresh, nothing]
      exact ⟨_, h.enter isFresh⟩
  | close notFresh isOpen =>
      rw [Search.closes?_of_open notFresh isOpen]
      exact ⟨_, h.close nodup isOpen⟩
  | pass notFresh notOpen =>
      rw [Search.closes?_of_finished notOpen, nothing]
      exact ⟨_, h.pass notFresh notOpen⟩

theorem reach (h : Progress nodes next done met s) (nodup : nodes.Nodup)
    (run : ReflTransGen (Search.Moves next) s t) : ∃ done met, Progress nodes next done met t := by
  induction run with
  | refl => exact ⟨done, met, h⟩
  | tail _ step ih =>
      obtain ⟨_, _, before⟩ := ih
      obtain ⟨_, after⟩ := before.step nodup step
      exact ⟨_, _, after⟩

theorem run (h : Progress nodes next done met s) (nodup : nodes.Nodup) (n : Nat) :
    ∃ done, Progress nodes next done (met ++ Search.closings next n s) (Search.run next n s) := by
  induction n generalizing done met s with
  | zero => exact ⟨done, (List.append_nil met).symm ▸ h⟩
  | succ n ih =>
      cases step : s.step? next with
      | none =>
          rw [Search.closings_of_ended step, List.append_nil, Search.run, step]
          exact ⟨done, h⟩
      | some t =>
          obtain ⟨_, after⟩ := h.step nodup (Search.moves_of_step? step)
          rw [Search.closings_of_step step, ← List.append_assoc, Search.run, step]
          exact ih after

end Progress

/-- What a finished search knows: an order of all nodes in which only links that close a cycle lead
back, and those cycles, no two of which have the same members. -/
structure Swept (nodes : List String) (next : String → List String) (order : List String)
    (met : List (List String)) : Prop where
  covers : order.Perm nodes
  ordered : Descends (Unmet nodes next met) order
  cycles : ∀ c ∈ met, SimpleCycle (Link nodes next) c
  apart : ∀ c ∈ met, ∀ d ∈ met, (∀ id, id ∈ c ↔ id ∈ d) → c = d

theorem Swept.acyclic {nodes order : List String} {next : String → List String}
    {met : List (List String)} (h : Swept nodes next order met) (nodup : nodes.Nodup) :
    Acyclic (Unmet nodes next met) := by
  apply h.ordered.acyclic (h.covers.nodup_iff.mpr nodup)
  intro a b unmet
  exact h.covers.mem_iff.mpr unmet.1.1

/-- All cycles that the search among modules closes, in order. -/
def closings (ids : List String) (arcs : List Arc) : List (List String) :=
  let next := successors arcs
  let start : Search := { fresh := Sorted.distinct ids }
  start.closings next (start.remaining next)

/-- The cycles found are those kept of the ones that a whole search closes. -/
theorem find_closings (ids : List String) (arcs : List Arc) :
    (∃ order, Swept (Sorted.distinct ids) (successors arcs) order (closings ids arcs)) ∧
      find ids arcs = Search.kept (closings ids arcs) := by
  obtain ⟨done, h⟩ := (Progress.start (Sorted.distinct ids) (successors arcs)).run
    (Sorted.nodup_distinct ids) (Search.remaining (successors arcs) { fresh := Sorted.distinct ids })
  obtain ⟨noFresh, noOpen⟩ := Search.run_ends (successors arcs) { fresh := Sorted.distinct ids }
  have parts := h.parts
  rw [Search.opened, noFresh, noOpen, List.map_nil, List.append_nil, List.append_nil] at parts
  exact ⟨⟨done, parts, h.ordered, h.cycles, h.apart⟩, (find_eq_search ids arcs).trans h.kept⟩

theorem find_swept (ids : List String) (arcs : List Arc) :
    ∃ order met, Swept (Sorted.distinct ids) (successors arcs) order met ∧
      find ids arcs = Search.kept met := by
  obtain ⟨⟨order, swept⟩, found⟩ := find_closings ids arcs
  exact ⟨order, closings ids arcs, swept, found⟩

end Survey.Cycles
