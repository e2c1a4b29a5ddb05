import Mathlib.Algebra.BigOperators.Group.List.Lemmas
import Mathlib.Algebra.Ring.Nat
import Mathlib.Data.List.Dedup
import Survey.Graph.Degrees
import Survey.Proofs.Graph.ReverseIndex

/-!
Two counts of the arcs of a graph. The table of degrees counts them all, and its degrees add up to
the arcs on either side; the reverse index keeps each pair of modules once, so that it is shorter at
a module exactly where another has several arcs to it.
-/
namespace Survey

theorem Sorted.length_distinct_eq_iff {texts : List String} :
    (distinct texts).length = texts.length ↔ texts.Nodup := by
  have perm : (distinct texts).Perm texts.dedup := by
    apply (List.perm_ext_iff_of_nodup (nodup_distinct texts) texts.nodup_dedup).mpr
    intro text
    rw [mem_distinct, List.mem_dedup]
  rw [perm.length_eq]
  constructor
  · intro same
    have whole : texts.dedup = texts := (List.dedup_sublist texts).eq_of_length same
    exact List.dedup_eq_self.mp whole
  · intro nodup
    rw [nodup.dedup]

theorem Keyed.sum_countP {α : Type} {key : α → String} {keys : List String} (nodup : keys.Nodup)
    (items : List α) (covered : ∀ a ∈ items, key a ∈ keys) :
    (keys.map fun k => items.countP (key · == k)).sum = items.length := by
  induction items with
  | nil => simp
  | cons a items ih =>
      have once : (keys.map fun k => if key a == k then 1 else 0).sum = 1 := by
        rw [List.sum_map_eq_nsmul_single (key a)]
        · rw [List.count_eq_one_of_mem nodup (covered a List.mem_cons_self), beq_self_eq_true,
            if_pos rfl, one_nsmul]
        · intro k other _
          exact if_neg (by simpa using Ne.symm other)
      have rest := ih fun b member => covered b (List.mem_cons_of_mem a member)
      simp only [List.countP_cons, List.sum_map_add, once, rest, List.length_cons]

namespace Degree

variable {arcs : List Arc} {id : String} {d : Degree}

/-- A module is an end of an arc. -/
def Joined (arcs : List Arc) (id : String) : Prop :=
  ∃ arc ∈ arcs, arc.target = id ∨ arc.source = id

theorem mem_ends : id ∈ arcs.flatMap (fun a => [a.target, a.source]) ↔ Joined arcs id := by
  simp only [Joined, List.mem_flatMap, List.mem_cons, List.not_mem_nil, or_false, @eq_comm _ id]

theorem mem_table : (id, d) ∈ table arcs ↔ Joined arcs id ∧ d = ofArcs arcs id := by
  simp only [table, List.mem_map, Sorted.mem_distinct, mem_ends, Prod.mk.injEq]
  constructor
  · rintro ⟨_, ends, rfl, rfl⟩
    exact ⟨ends, rfl⟩
  · rintro ⟨ends, rfl⟩
    exact ⟨id, ends, rfl, rfl⟩

theorem ascending_table (arcs : List Arc) : Sorted.Ascending Prod.fst (table arcs) :=
  List.pairwise_map.mpr (Sorted.ascending_distinct _)

section Tally

/-- A table with one more arc, counted at its target and then at its source. -/
def tally (entries : List (String × Degree)) (a : Arc) : List (String × Degree) :=
  Sorted.change ⟨0, 0⟩ (fun d => { d with fanOut := d.fanOut + 1 }) a.source
    (Sorted.change ⟨0, 0⟩ (fun d => { d with fanIn := d.fanIn + 1 }) a.target entries)

theorem joined_concat {a : Arc} :
    Joined (arcs ++ [a]) id ↔ Joined arcs id ∨ a.target = id ∨ a.source = id := by
  simp only [Joined, List.mem_append, List.mem_singleton, or_and_right, exists_or, exists_eq_left]

theorem ofArcs_of_not_joined (apart : ¬ Joined arcs id) : ofArcs arcs id = ⟨0, 0⟩ := by
  have missed : ∀ arc ∈ arcs, arc.target ≠ id ∧ arc.source ≠ id := by
    intro arc member
    exact not_or.mp fun ends => apart ⟨arc, member, ends⟩
  simp only [ofArcs, Degree.mk.injEq, List.countP_eq_zero, beq_iff_eq]
  exact ⟨fun arc member => (missed arc member).1, fun arc member => (missed arc member).2⟩

theorem ofArcs_concat (arcs : List Arc) (a : Arc) (id : String) : ofArcs (arcs ++ [a]) id =
    ⟨(ofArcs arcs id).fanIn + (if a.target = id then 1 else 0),
      (ofArcs arcs id).fanOut + (if a.source = id then 1 else 0)⟩ := by
  simp only [ofArcs, List.countP_append, List.countP_singleton, beq_iff_eq]

theorem lookup_table_of_joined (joined : Joined arcs id) :
    (table arcs).lookup id = some (ofArcs arcs id) :=
  (Sorted.lookup_eq_some_iff (ascending_table arcs)).mpr (mem_table.mpr ⟨joined, rfl⟩)

theorem lookup_table_of_not_joined (apart : ¬ Joined arcs id) : (table arcs).lookup id = none := by
  apply Option.eq_none_iff_forall_ne_some.mpr
  intro d found
  exact apart (mem_table.mp ((Sorted.lookup_eq_some_iff (ascending_table arcs)).mp found)).1

theorem lookup_table_getD (arcs : List Arc) (id : String) :
    ((table arcs).lookup id).getD ⟨0, 0⟩ = ofArcs arcs id := by
  by_cases joined : Joined arcs id
  · rw [lookup_table_of_joined joined, Option.getD_some]
  · rw [lookup_table_of_not_joined joined, ofArcs_of_not_joined joined, Option.getD_none]

theorem table_concat (arcs : List Arc) (a : Arc) : table (arcs ++ [a]) = tally (table arcs) a := by
  have start := ascending_table arcs
  have entered := Sorted.ascending_change start ⟨0, 0⟩ (fun d => { d with fanIn := d.fanIn + 1 })
    a.target
  apply Sorted.eq_of_lookup (ascending_table _) (Sorted.ascending_change entered _ _ _)
  intro id
  rw [Sorted.lookup_change entered, Sorted.lookup_change start, Sorted.lookup_change start,
    lookup_table_getD]
  by_cases leaves : id = a.source
  · subst leaves
    rw [lookup_table_of_joined (joined_concat.mpr (Or.inr (Or.inr rfl))), ofArcs_concat, if_pos rfl,
      if_pos rfl]
    -- A module that is both ends of the arc has been counted as its target before.
    by_cases own : a.source = a.target
    · rw [if_pos own, if_pos own.symm, own, Option.getD_some]
    · rw [if_neg own, if_neg (Ne.symm own), lookup_table_getD]
      rfl
  · rw [if_neg leaves]
    by_cases enters : id = a.target
    · subst enters
      rw [lookup_table_of_joined (joined_concat.mpr (Or.inr (Or.inl rfl))), ofArcs_concat, if_pos rfl,
        if_pos rfl, if_neg (Ne.symm leaves)]
      rfl
    · rw [if_neg enters]
      by_cases joined : Joined arcs id
      · rw [lookup_table_of_joined joined, lookup_table_of_joined (joined_concat.mpr (Or.inl joined)),
          ofArcs_concat, if_neg (Ne.symm leaves), if_neg (Ne.symm enters)]
        rfl
      · rw [lookup_table_of_not_joined joined, lookup_table_of_not_joined]
        rw [joined_concat]
        rintro (held | rfl | rfl)
        · exact joined held
        · exact enters rfl
        · exact leaves rfl

/-- The table is what one pass over the arcs gathers. -/
theorem table_eq_foldl (arcs : List Arc) : table arcs = arcs.foldl tally [] := by
  induction arcs using List.reverseRecOn with
  | nil => rfl
  | append_singleton arcs a ih => rw [table_concat, ih, List.foldl_concat]

end Tally

theorem sum_fanIn_table (arcs : List Arc) :
    ((table arcs).map fun entry => entry.2.fanIn).sum = arcs.length := by
  rw [table, List.map_map]
  apply Keyed.sum_countP (Sorted.nodup_distinct _)
  intro arc member
  exact Sorted.mem_distinct.mpr (mem_ends.mpr ⟨arc, member, Or.inl rfl⟩)

theorem sum_fanOut_table (arcs : List Arc) :
    ((table arcs).map fun entry => entry.2.fanOut).sum = arcs.length := by
  rw [table, List.map_map]
  apply Keyed.sum_countP (Sorted.nodup_distinct _)
  intro arc member
  exact Sorted.mem_distinct.mpr (mem_ends.mpr ⟨arc, member, Or.inr rfl⟩)

/-- A table counts arcs: the ends of arcs have an entry each, in order, with the arcs that enter and
leave, and every arc enters one of them and leaves one. -/
structure Counts (arcs : List Arc) (entries : List (String × Degree)) : Prop where
  ascending : (entries.map Prod.fst).Pairwise (· < ·)
  mem_iff : ∀ id d, (id, d) ∈ entries ↔
    (∃ arc ∈ arcs, arc.target = id ∨ arc.source = id) ∧
      d.fanIn = arcs.countP (·.target == id) ∧ d.fanOut = arcs.countP (·.source == id)
  entering : (entries.map fun entry => entry.2.fanIn).sum = arcs.length
  leaving : (entries.map fun entry => entry.2.fanOut).sum = arcs.length

theorem counts_table (arcs : List Arc) : Counts arcs (table arcs) where
  ascending := List.pairwise_map.mpr (ascending_table arcs)
  mem_iff id d := by
    rw [mem_table]
    refine and_congr Iff.rfl ?_
    rcases d with ⟨fanIn, fanOut⟩
    simp only [ofArcs, Degree.mk.injEq]
  entering := sum_fanIn_table arcs
  leaving := sum_fanOut_table arcs

/-- Arcs between the same modules count each, and an arc from a module to itself on both sides. -/
example : table [⟨"a.ts", "b.ts", .plain⟩, ⟨"a.ts", "b.ts", .typeOnly⟩, ⟨"b.ts", "b.ts", .dynamic⟩] =
    [("a.ts", ⟨0, 2⟩), ("b.ts", ⟨3, 1⟩)] := by
  decide

end Degree

namespace Graph

variable {g : Graph} {id : String}

theorem fanIn_eq_length (arcs : List Arc) (id : String) :
    (Degree.ofArcs arcs id).fanIn = (sources arcs id).length := by
  rw [sources, List.length_map]
  exact List.countP_eq_length_filter

theorem Filed.length_importers_le (filed : g.Filed) (id : String) :
    (g.importers id).length ≤ (Degree.ofArcs g.arcs id).fanIn := by
  rw [fanIn_eq_length, filed.importers_eq]
  exact Sorted.length_ofList_le _ _

theorem Filed.length_importers_eq_iff (filed : g.Filed) :
    (g.importers id).length = (Degree.ofArcs g.arcs id).fanIn ↔
      ∀ source, g.arcs.countP (fun arc => arc.source == source && arc.target == id) ≤ 1 := by
  rw [fanIn_eq_length, filed.importers_eq, Sorted.length_distinct_eq_iff,
    List.nodup_iff_count_le_one]
  refine forall_congr' fun source => ?_
  rw [sources, List.count_eq_countP, List.countP_map, List.countP_filter]
  rfl

theorem source_mem_ids_build {modules : List Module} {schema : Schema} {arc : Arc}
    (member : arc ∈ (build modules schema).arcs) : arc.source ∈ (build modules schema).ids := by
  obtain ⟨m, held, _, _, _, source, _⟩ := mem_arcs_build.mp member
  exact source ▸ List.mem_map_of_mem held

theorem length_importers_build_eq_iff {modules : List Module} {schema : Schema} :
    ((build modules schema).importers id).length =
        (Degree.ofArcs (build modules schema).arcs id).fanIn ↔
      ¬ ∃ m ∈ (build modules schema).modules, 2 ≤ (build modules schema).arcs.countP
        fun arc => arc.source == m.path && arc.target == id := by
  rw [(filed_build modules schema).length_importers_eq_iff]
  constructor
  · rintro single ⟨m, _, twice⟩
    exact absurd (single m.path) (Nat.not_le.mpr twice)
  · intro single source
    by_contra more
    have twice := Nat.not_le.mp more
    obtain ⟨arc, member, matched⟩ := List.countP_pos_iff.mp (Nat.lt_trans Nat.one_pos twice)
    obtain ⟨m, held, path⟩ := List.mem_map.mp (source_mem_ids_build member)
    obtain rfl : arc.source = source := eq_of_beq (Bool.and_eq_true_iff.mp matched).1
    exact single ⟨m, held, path ▸ twice⟩

end Graph

end Survey
