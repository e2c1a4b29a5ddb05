import Mathlib.Data.List.Chain
import Mathlib.Data.List.Nodup
import Mathlib.Logic.Relation

/-!
Closed walks of a relation. A relation without them is recognised by an order in which every step
leads onwards.
-/
namespace Survey
open Relation (ReflTransGen TransGen)

variable {α : Type} {r s : α → α → Prop}

/-- A walk of one step or more that ends where it starts. -/
structure ClosedWalk (r : α → α → Prop) (walk : List α) : Prop where
  two_le : 2 ≤ walk.length
  closed : walk.head? = walk.getLast?
  linked : walk.IsChain r

/-- A closed walk on which nothing but its first member occurs twice. -/
structure SimpleCycle (r : α → α → Prop) (walk : List α) : Prop extends ClosedWalk r walk where
  distinct : walk.dropLast.Nodup

/-- Nothing is reached from itself by one step or more. -/
def Acyclic (r : α → α → Prop) : Prop :=
  ∀ a, ¬ TransGen r a a

theorem closedWalk_iff {walk : List α} : ClosedWalk r walk ↔
    ∃ a between, walk = a :: (between ++ [a]) ∧ (a :: (between ++ [a])).IsChain r := by
  constructor
  · rintro ⟨two, closed, linked⟩
    cases walk with
    | nil => simp at two
    | cons a rest =>
        have nonempty : rest ≠ [] := by
          rintro rfl
          simp at two
        obtain ⟨between, b, rfl⟩ := (List.eq_nil_or_concat' rest).resolve_left nonempty
        have same : a = b := by simpa [List.getLast?_cons] using closed
        subst same
        exact ⟨a, between, rfl, linked⟩
  · rintro ⟨a, between, rfl, linked⟩
    exact ⟨by simp, by simp [List.getLast?_cons], linked⟩

/-- Only the steps that a closed walk takes matter to it. -/
theorem ClosedWalk.of_steps {walk : List α} (w : ClosedWalk r walk)
    (h : ∀ a b, r a b → [a, b] <:+: walk → s a b) : ClosedWalk s walk := by
  refine ⟨w.two_le, w.closed, List.isChain_iff_forall_rel_of_append_cons_cons.mpr ?_⟩
  intro a b before after split
  apply h a b (List.isChain_iff_forall_rel_of_append_cons_cons.mp w.linked split)
  exact ⟨before, after, by rw [split, List.append_assoc]; rfl⟩

theorem reach_of_head {walk : List α} {a b : α} (linked : walk.IsChain r)
    (head : walk.head? = some a) (member : b ∈ walk) : ReflTransGen r a b := by
  induction walk generalizing a with
  | nil => cases member
  | cons x rest ih =>
      cases head
      rcases List.mem_cons.mp member with rfl | later
      · exact .refl
      · cases rest with
        | nil => cases later
        | cons y rest =>
            obtain ⟨first, tail⟩ := List.isChain_cons_cons.mp linked
            exact .head first (ih tail rfl later)

theorem reach_to_last {walk : List α} {a b : α} (linked : walk.IsChain r)
    (last : walk.getLast? = some a) (member : b ∈ walk) : ReflTransGen r b a := by
  have back : walk.reverse.IsChain fun x y => r y x := List.isChain_reverse.mpr linked
  have head : walk.reverse.head? = some a := by rw [List.head?_reverse, last]
  exact Relation.reflTransGen_swap.mp (reach_of_head back head (List.mem_reverse.mpr member))

/-- The members of a closed walk reach each other. -/
theorem ClosedWalk.reach {walk : List α} (w : ClosedWalk r walk) {a b : α} (ha : a ∈ walk)
    (hb : b ∈ walk) : ReflTransGen r a b := by
  obtain ⟨x, between, rfl, linked⟩ := closedWalk_iff.mp w
  have last : (x :: (between ++ [x])).getLast? = some x := by simp [List.getLast?_cons]
  exact (reach_to_last linked last ha).trans (reach_of_head linked rfl hb)

theorem ClosedWalk.transGen {walk : List α} (w : ClosedWalk r walk) {a : α} (ha : a ∈ walk) :
    TransGen r a a := by
  have two := w.two_le
  match walk, w, ha, two with
  | x :: y :: rest, w, ha, _ =>
    have first : r x y := (List.isChain_cons_cons.mp w.linked).1
    have ax : ReflTransGen r a x := w.reach ha (by simp)
    have ya : ReflTransGen r y a := w.reach (by simp) ha
    exact (TransGen.tail' ax first).trans_left ya

theorem ClosedWalk.exists_step {walk : List α} (w : ClosedWalk r walk) {a : α} (ha : a ∈ walk) :
    ∃ b, r a b := by
  obtain ⟨b, first, _⟩ := TransGen.head'_iff.mp (w.transGen ha)
  exact ⟨b, first⟩

theorem exists_closedWalk {a : α} (h : TransGen r a a) :
    ∃ walk, ClosedWalk r walk ∧ a ∈ walk := by
  obtain ⟨b, first, back⟩ := TransGen.head'_iff.mp h
  obtain ⟨rest, linked, last⟩ := List.exists_isChain_cons_of_relationReflTransGen back
  refine ⟨a :: b :: rest, ⟨by simp, ?_, .cons_cons first linked⟩, List.mem_cons_self⟩
  rw [List.getLast?_cons_cons, List.getLast?_eq_some_getLast (List.cons_ne_nil b rest), last]
  rfl

theorem Acyclic.mono (h : ∀ a b, s a b → r a b) (acyclic : Acyclic r) : Acyclic s :=
  fun a loop => acyclic a (TransGen.mono h a a loop)

theorem acyclic_iff : Acyclic r ↔ ∀ walk, ¬ ClosedWalk r walk := by
  constructor
  · intro acyclic walk w
    obtain ⟨a, between, rfl, _⟩ := closedWalk_iff.mp w
    exact acyclic a (w.transGen List.mem_cons_self)
  · intro none a loop
    obtain ⟨walk, w, _⟩ := exists_closedWalk loop
    exact none walk w

/-- Where only the last links of given walks close cycles, every closed walk takes one of them. -/
theorem ClosedWalk.exists_last_link {walks : List (List α)} {walk : List α} (w : ClosedWalk r walk)
    (acyclic : Acyclic fun a b => r a b ∧ ∀ c ∈ walks, ¬ [a, b] <:+ c) :
    ∃ c ∈ walks, ∃ u v, [u, v] <:+ c ∧ [u, v] <:+: walk := by
  by_contra none
  apply acyclic_iff.mp acyclic walk
  apply w.of_steps
  intro a b step taken
  exact ⟨step, fun c member last => none ⟨c, member, a, b, last, taken⟩⟩

/-- A closed walk is known from its members before the repeated one. -/
theorem ClosedWalk.eq_of_dropLast {xs ys : List α} (hx : ClosedWalk r xs) (hy : ClosedWalk s ys)
    (same : xs.dropLast = ys.dropLast) : xs = ys := by
  obtain ⟨a, between, rfl, _⟩ := closedWalk_iff.mp hx
  obtain ⟨b, others, rfl, _⟩ := closedWalk_iff.mp hy
  rw [← List.cons_append, ← List.cons_append, List.dropLast_concat, List.dropLast_concat] at same
  cases same
  rfl

theorem ClosedWalk.dropLast_ne_nil {walk : List α} (w : ClosedWalk r walk) :
    walk.dropLast ≠ [] := by
  intro none
  have two := w.two_le
  have length := congrArg List.length none
  rw [List.length_dropLast, List.length_nil] at length
  omega

theorem ClosedWalk.mem_dropLast {walk : List α} (w : ClosedWalk r walk) {a : α} :
    a ∈ walk.dropLast ↔ a ∈ walk := by
  obtain ⟨x, between, rfl, _⟩ := closedWalk_iff.mp w
  rw [← List.cons_append, List.dropLast_concat]
  simp only [List.mem_append, List.mem_cons, List.not_mem_nil, or_false]
  exact ⟨Or.inl, fun h => h.elim id Or.inl⟩

/-- Every step from a member of the list leads to a later one. -/
def Descends (r : α → α → Prop) : List α → Prop
  | [] => True
  | a :: later => (∀ b, r a b → b ∈ later) ∧ Descends r later

theorem Descends.mono (h : ∀ a b, s a b → r a b) {order : List α} (d : Descends r order) :
    Descends s order := by
  induction order with
  | nil => trivial
  | cons a later ih => exact ⟨fun b step => d.1 b (h a b step), ih d.2⟩

theorem Descends.mem_of_step {order : List α} (d : Descends r order) {a b : α} (ha : a ∈ order)
    (step : r a b) : b ∈ order := by
  induction order with
  | nil => cases ha
  | cons x later ih =>
      rcases List.mem_cons.mp ha with rfl | ha
      · exact List.mem_cons_of_mem _ (d.1 b step)
      · exact List.mem_cons_of_mem _ (ih d.2 ha)

theorem Descends.mem_of_reach {order : List α} (d : Descends r order) {a b : α} (ha : a ∈ order)
    (reach : ReflTransGen r a b) : b ∈ order := by
  induction reach with
  | refl => exact ha
  | tail _ step ih => exact d.mem_of_step ih step

theorem Descends.irrefl {order : List α} (d : Descends r order) (nodup : order.Nodup) {a : α}
    (ha : a ∈ order) : ¬ TransGen r a a := by
  induction order with
  | nil => cases ha
  | cons x later ih =>
      obtain ⟨notLater, nodup⟩ := List.nodup_cons.mp nodup
      rcases List.mem_cons.mp ha with rfl | ha
      · intro loop
        obtain ⟨b, first, back⟩ := TransGen.head'_iff.mp loop
        exact notLater (d.2.mem_of_reach (d.1 b first) back)
      · exact ih d.2 nodup ha

/-- An order of all that can make a step, in which every step leads onwards, leaves no cycle. -/
theorem Descends.acyclic {order : List α} (d : Descends r order) (nodup : order.Nodup)
    (covers : ∀ a b, r a b → a ∈ order) : Acyclic r := by
  intro a loop
  obtain ⟨b, first, _⟩ := TransGen.head'_iff.mp loop
  exact d.irrefl nodup (covers a b first) loop

end Survey
