import Survey.Proofs.Cycles.Found

/-!
The cycles that a search closes and those of them that are kept. No two cycles closed have the same
members, and every strongly connected component with a cycle holds all members of one. A cycle is
left out only under the key of one with other members, which takes a name that holds the mark of
keys.
-/
namespace Survey.Cycles
open Relation (ReflTransGen TransGen)

namespace Search

variable {next : String → List String} {s t : Search} {fresh rest c : List String} {u v : String}
  {below : List (String × List String)} {found : List (List String)} {n : Nat}

/-- No module stands twice in a search, and no successor waits twice. -/
structure Tidy (s : Search) : Prop where
  parts : (s.opened ++ s.fresh).Nodup
  pending : ∀ entry ∈ s.stack, entry.2.Nodup

theorem Tidy.pending_rest (h : Tidy ⟨fresh, (u, v :: rest) :: below, found⟩) :
    ∀ entry ∈ (u, rest) :: below, entry.2.Nodup := by
  obtain ⟨inner, outer⟩ := List.forall_mem_cons.mp h.pending
  exact List.forall_mem_cons.mpr ⟨(List.nodup_cons.mp inner).2, outer⟩

theorem Tidy.moves (each : ∀ id, (next id).Nodup) (h : Tidy s) (step : Moves next s t) : Tidy t := by
  cases step with
  | root => exact ⟨h.parts, fun entry member => List.mem_singleton.mp member ▸ each _⟩
  | finish => exact ⟨(List.nodup_cons.mp h.parts).2, (List.forall_mem_cons.mp h.pending).2⟩
  | @enter fresh u v rest below found isFresh =>
      have moved : ((v :: u :: below.map Prod.fst) ++ fresh.erase v).Perm
          ((u :: below.map Prod.fst) ++ fresh) :=
        List.perm_middle.symm.trans ((List.perm_cons_erase isFresh).symm.append_left _)
      exact ⟨moved.nodup_iff.mpr h.parts, List.forall_mem_cons.mpr ⟨each v, h.pending_rest⟩⟩
  | close _ _ => exact ⟨h.parts, h.pending_rest⟩
  | pass _ _ => exact ⟨h.parts, h.pending_rest⟩

/-- An open module waits to look at a successor. -/
def Waits (stack : List (String × List String)) (a b : String) : Prop :=
  ∃ rest, (a, rest) ∈ stack ∧ b ∈ rest

/-- A link that a search has still to look at. -/
def Ahead (s : Search) (a b : String) : Prop :=
  a ∈ s.fresh ∨ Waits s.stack a b

variable {a b : String}

theorem waits_cons : Waits ((u, rest) :: below) a b ↔ a = u ∧ b ∈ rest ∨ Waits below a b := by
  constructor
  · rintro ⟨more, member, waits⟩
    rcases List.mem_cons.mp member with same | member
    · cases same
      exact Or.inl ⟨rfl, waits⟩
    · exact Or.inr ⟨more, member, waits⟩
  · rintro (⟨rfl, waits⟩ | ⟨more, member, waits⟩)
    · exact ⟨rest, List.mem_cons_self, waits⟩
    · exact ⟨more, List.mem_cons_of_mem _ member, waits⟩

theorem waits_of_looked (h : Waits ((u, rest) :: below) a b) : Waits ((u, v :: rest) :: below) a b := by
  rw [waits_cons] at h ⊢
  exact h.imp_left fun here => ⟨here.1, List.mem_cons_of_mem v here.2⟩

theorem Ahead.of_moves (step : Moves next s t) (h : t.Ahead a b) : s.Ahead a b := by
  cases step with
  | @root r fresh found =>
      rcases h with isFresh | waits
      · exact Or.inl (List.mem_cons_of_mem r isFresh)
      · obtain ⟨_, member, _⟩ := waits
        cases List.mem_singleton.mp member
        exact Or.inl List.mem_cons_self
  | finish => exact h.imp_right fun waits => waits_cons.mpr (Or.inr waits)
  | enter isFresh =>
      rcases h with still | waits
      · exact Or.inl (List.mem_of_mem_erase still)
      · rcases waits_cons.mp waits with here | waits
        · exact Or.inl (here.1 ▸ isFresh)
        · exact Or.inr (waits_of_looked waits)
  | close _ _ => exact h.imp_right waits_of_looked
  | pass _ _ => exact h.imp_right waits_of_looked

/-- The link that closes a cycle is looked at in that step and never again. -/
theorem exists_link_of_closes (tidy : Tidy s) (step : Moves next s t) (closes : s.closes? = some c) :
    ∃ a b, [a, b] <:+ c ∧ s.Ahead a b ∧ ¬ t.Ahead a b := by
  cases step with
  | root => cases closes
  | finish => cases closes
  | enter isFresh =>
      rw [closes?_of_fresh isFresh] at closes
      cases closes
  | pass _ notOpen =>
      rw [closes?_of_finished notOpen] at closes
      cases closes
  | @close fresh u v rest below found notFresh isOpen =>
      rw [closes?_of_open notFresh isOpen] at closes
      cases closes
      refine ⟨u, v, closing_last isOpen rfl, ?_, ?_⟩
      · exact Or.inr (waits_cons.mpr (Or.inl ⟨rfl, List.mem_cons_self⟩))
      · have alone : u ∉ below.map Prod.fst ++ fresh := (List.nodup_cons.mp tidy.parts).1
        rw [List.mem_append, not_or] at alone
        rintro (isFresh | waits)
        · exact alone.2 isFresh
        · rcases waits_cons.mp waits with ⟨_, again⟩ | ⟨more, member, _⟩
          · exact (List.nodup_cons.mp (List.forall_mem_cons.mp tidy.pending).1).1 again
          · exact alone.1 (List.mem_map.mpr ⟨_, member, rfl⟩)

theorem exists_link_ahead (each : ∀ id, (next id).Nodup) (tidy : Tidy s)
    (member : c ∈ closings next n s) : ∃ a b, [a, b] <:+ c ∧ s.Ahead a b := by
  induction n generalizing s with
  | zero => cases member
  | succ n ih =>
      cases step : s.step? next with
      | none =>
          rw [closings_of_ended step] at member
          cases member
      | some t =>
          have moves := moves_of_step? step
          rw [closings_of_step step, List.mem_append, Option.mem_toList] at member
          rcases member with here | later
          · obtain ⟨a, b, last, ahead, _⟩ := exists_link_of_closes tidy moves here
            exact ⟨a, b, last, ahead⟩
          · obtain ⟨a, b, last, ahead⟩ := ih (tidy.moves each moves) later
            exact ⟨a, b, last, ahead.of_moves moves⟩

theorem nodup_closings (each : ∀ id, (next id).Nodup) (tidy : Tidy s) (n : Nat) :
    (closings next n s).Nodup := by
  induction n generalizing s with
  | zero => exact List.nodup_nil
  | succ n ih =>
      cases step : s.step? next with
      | none =>
          rw [closings_of_ended step]
          exact List.nodup_nil
      | some t =>
          have moves := moves_of_step? step
          have after := tidy.moves each moves
          have single : s.closes?.toList.Nodup := by cases s.closes? <;> simp
          rw [closings_of_step step, List.nodup_append]
          refine ⟨single, ih after, ?_⟩
          rintro c here _ later rfl
          -- Two closings of one cycle would look at its last link twice.
          obtain ⟨a, b, last, _, passed⟩ :=
            exists_link_of_closes tidy moves (Option.mem_toList.mp here)
          obtain ⟨a', b', last', ahead⟩ := exists_link_ahead each after later
          have same := (List.suffix_of_suffix_length_le last last' (Nat.le_refl 2)).eq_of_length rfl
          cases same
          exact passed ahead

end Search

variable {ids c : List String} {arcs : List Arc}

theorem simpleCycle_of_mem_closings (member : c ∈ closings ids arcs) :
    SimpleCycle (Loads ids arcs) c := by
  obtain ⟨⟨_, swept⟩, _⟩ := find_closings ids arcs
  rw [← link_eq_loads]
  exact swept.cycles c member

theorem closings_apart (ids : List String) (arcs : List Arc) :
    (closings ids arcs).Pairwise fun c d => ¬ ∀ id, id ∈ c ↔ id ∈ d := by
  have tidy : Search.Tidy { fresh := Sorted.distinct ids } :=
    ⟨Sorted.nodup_distinct ids, fun _ member => nomatch member⟩
  have nodup : (closings ids arcs).Nodup :=
    Search.nodup_closings (fun _ => Sorted.nodup_distinct _) tidy _
  obtain ⟨⟨_, swept⟩, _⟩ := find_closings ids arcs
  refine List.Pairwise.imp_of_mem ?_ nodup
  intro c d first second differs same
  exact differs (swept.apart c first d second same)

/-- A module on a cycle shares its component with all members of a cycle that is closed. -/
theorem exists_closing_of_loop {a : String} (loop : TransGen (Loads ids arcs) a a) :
    ∃ c ∈ closings ids arcs, ∀ b ∈ c,
      ReflTransGen (Loads ids arcs) a b ∧ ReflTransGen (Loads ids arcs) b a := by
  obtain ⟨⟨_, swept⟩, _⟩ := find_closings ids arcs
  have acyclic := swept.acyclic (Sorted.nodup_distinct ids)
  obtain ⟨walk, w, onWalk⟩ := exists_closedWalk loop
  obtain ⟨c, member, u, v, last, taken⟩ := (link_eq_loads ids arcs ▸ w).exists_last_link acyclic
  have cycle := (simpleCycle_of_mem_closings member).toClosedWalk
  have walked : u ∈ walk := taken.mem List.mem_cons_self
  have held : u ∈ c := last.mem List.mem_cons_self
  refine ⟨c, member, ?_⟩
  intro b part
  exact ⟨(w.reach onWalk walked).trans (cycle.reach held part),
    (cycle.reach part held).trans (w.reach walked onWalk)⟩

/-- Without the mark in a name, cycles with one key have the same members. -/
theorem exists_mark_of_membersKey_eq {d : List String} (hc : c ≠ []) (hd : d ≠ [])
    (keys : membersKey d = membersKey c) (differ : ¬ ∀ id, id ∈ d ↔ id ∈ c) :
    ∃ id ∈ c ++ d, '|' ∈ id.toList := by
  by_contra none
  have plain : ∀ id ∈ c ++ d, '|' ∉ id.toList := fun id member mark => none ⟨id, member, mark⟩
  apply differ
  exact mem_iff_of_membersKey_eq hd hc (fun id member => plain id (List.mem_append_right c member))
    (fun id member => plain id (List.mem_append_left d member)) keys

theorem find_or_shared_key (member : c ∈ closings ids arcs) : c ∈ find ids arcs ∨
    ∃ d ∈ find ids arcs, membersKey d = membersKey c ∧ ¬ ∀ id, id ∈ d ↔ id ∈ c := by
  obtain ⟨⟨_, swept⟩, found⟩ := find_closings ids arcs
  rw [found]
  obtain ⟨d, kept, keys⟩ := Search.exists_kept_of_mem member
  by_cases same : ∀ id, id ∈ d ↔ id ∈ c
  · exact Or.inl (swept.apart d (Search.mem_of_mem_kept kept) c member same ▸ kept)
  · exact Or.inr ⟨d, kept, keys, same⟩

/-- What is found is what noting by keys keeps of the cycles closed. No two of these have the same
members, so a cycle that is left out is left out for one with other members that has its key, and a
name in one of the two holds the mark of keys. Every strongly connected component with a cycle holds
all members of a cycle closed, and so, where keys tell the cycles closed apart, of a cycle found. -/
theorem cycles_left_out_by_key (ids : List String) (arcs : List Arc) :
    find ids arcs = Search.kept (closings ids arcs) ∧
    (closings ids arcs).Pairwise (fun c d => ¬ ∀ id, id ∈ c ↔ id ∈ d) ∧
    (∀ c ∈ closings ids arcs, c ∈ find ids arcs ∨
      ∃ d ∈ find ids arcs, membersKey d = membersKey c ∧ (¬ ∀ id, id ∈ d ↔ id ∈ c) ∧
        ∃ id ∈ c ++ d, '|' ∈ id.toList) ∧
    (∀ a, TransGen (Loads ids arcs) a a → ∃ c ∈ closings ids arcs, ∀ b ∈ c,
      ReflTransGen (Loads ids arcs) a b ∧ ReflTransGen (Loads ids arcs) b a) ∧
    ((∀ c ∈ closings ids arcs, ∀ d ∈ closings ids arcs,
        membersKey c = membersKey d → ∀ id, id ∈ c ↔ id ∈ d) →
      ∀ a, TransGen (Loads ids arcs) a a → ∃ c ∈ find ids arcs, ∀ b ∈ c,
        ReflTransGen (Loads ids arcs) a b ∧ ReflTransGen (Loads ids arcs) b a) := by
  have found := (find_closings ids arcs).2
  have nonempty : ∀ c ∈ closings ids arcs, c ≠ [] := by
    rintro c member rfl
    exact (simpleCycle_of_mem_closings member).dropLast_ne_nil rfl
  have closed : ∀ d ∈ find ids arcs, d ∈ closings ids arcs := by
    intro d member
    rw [found] at member
    exact Search.mem_of_mem_kept member
  refine ⟨found, closings_apart ids arcs, ?_, fun a loop => exists_closing_of_loop loop, ?_⟩
  · intro c member
    refine (find_or_shared_key member).imp_right ?_
    rintro ⟨d, kept, keys, differ⟩
    exact ⟨d, kept, keys, differ,
      exists_mark_of_membersKey_eq (nonempty c member) (nonempty d (closed d kept)) keys differ⟩
  · intro apart a loop
    obtain ⟨c, member, within⟩ := exists_closing_of_loop loop
    rcases find_or_shared_key member with kept | ⟨d, kept, keys, differ⟩
    · exact ⟨c, kept, within⟩
    · exact absurd (apart d (closed d kept) c member keys) differ

/-- A ring through a module with the mark in its name, and a loop; their keys differ. -/
def markedArcs : List Arc :=
  [⟨"a|b", "c", .plain⟩, ⟨"c", "a|b", .dynamic⟩, ⟨"c", "c", .plain⟩]

theorem marked_ring_found :
    TransGen (Loads ["a|b", "c"] markedArcs) "a|b" "a|b" ∧
    ∃ c ∈ find ["a|b", "c"] markedArcs, ∀ b ∈ c,
      ReflTransGen (Loads ["a|b", "c"] markedArcs) "a|b" b ∧
        ReflTransGen (Loads ["a|b", "c"] markedArcs) b "a|b" := by
  have keys : ∀ c ∈ closings ["a|b", "c"] markedArcs, ∀ d ∈ closings ["a|b", "c"] markedArcs,
      membersKey c = membersKey d → c = d := by decide
  have there : Loads ["a|b", "c"] markedArcs "a|b" "c" := by decide
  have back : Loads ["a|b", "c"] markedArcs "c" "a|b" := by decide
  have loop : TransGen (Loads ["a|b", "c"] markedArcs) "a|b" "a|b" := .tail (.single there) back
  refine ⟨loop, (cycles_left_out_by_key _ _).2.2.2.2 ?_ "a|b" loop⟩
  intro c first d second same
  rw [keys c first d second same]
  exact fun _ => Iff.rfl

/-- A ring of two modules, and a module under the name of both that loads itself. -/
def barredArcs : List Arc :=
  [⟨"a", "b", .plain⟩, ⟨"b", "a", .plain⟩, ⟨"a|b", "a|b", .plain⟩]

/-- The loop is closed but not found, and what is found lies in another component. -/
theorem barred_loop_left_out :
    closings ["a", "b", "a|b"] barredArcs = [["a", "b", "a"], ["a|b", "a|b"]] ∧
    find ["a", "b", "a|b"] barredArcs = [["a", "b", "a"]] ∧
    TransGen (Loads ["a", "b", "a|b"] barredArcs) "a|b" "a|b" ∧
    ¬ ∃ c ∈ find ["a", "b", "a|b"] barredArcs, ∀ b ∈ c,
      ReflTransGen (Loads ["a", "b", "a|b"] barredArcs) "a|b" b ∧
        ReflTransGen (Loads ["a", "b", "a|b"] barredArcs) b "a|b" := by
  have found : find ["a", "b", "a|b"] barredArcs = [["a", "b", "a"]] := by decide
  have alone : ∀ b ∈ ["a", "b", "a|b"], Loads ["a", "b", "a|b"] barredArcs "a|b" b → b = "a|b" := by
    decide
  have stays {b : String} (reach : ReflTransGen (Loads ["a", "b", "a|b"] barredArcs) "a|b" b) :
      b = "a|b" := by
    induction reach with
    | refl => rfl
    | tail _ loads ih => exact alone _ loads.2.1 (ih ▸ loads)
  refine ⟨by decide, found, .single (by decide), ?_⟩
  rintro ⟨c, member, together⟩
  rw [found, List.mem_singleton] at member
  have elsewhere := stays (together "a" (by simp [member])).1
  exact absurd elsewhere (by decide)

end Survey.Cycles
