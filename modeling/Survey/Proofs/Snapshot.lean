import Mathlib.Data.List.Lattice
import Survey.Proofs.Sorted
import Survey.Snapshot

/-!
Comparing two snapshots. Every file of either falls into one class by what is found under its path in
the two, the classes do not depend on which of the two is the earlier one, and nothing changed exactly
when both have the same files.
-/
namespace Survey.Snapshot

variable {new old s t : Snapshot} {path : String} {keep keep' : String × FileDigest → Bool}

theorem mem_paths : path ∈ (s.files.filter keep).map Prod.fst ↔
    ∃ d, s.files.lookup path = some d ∧ keep (path, d) := by
  simp only [Sorted.lookup_eq_some_iff s.ascending, List.mem_map, List.mem_filter, Prod.exists,
    exists_and_right, exists_eq_right]

theorem mem_files : path ∈ s.files.map Prod.fst ↔ ∃ d, s.files.lookup path = some d := by
  simp only [Sorted.lookup_eq_some_iff s.ascending, List.mem_map, Prod.exists, exists_and_right,
    exists_eq_right]

theorem ascending_paths (s : Snapshot) (keep : String × FileDigest → Bool) :
    ((s.files.filter keep).map Prod.fst).Pairwise (· < ·) :=
  List.pairwise_map.mpr (s.ascending.sublist List.filter_sublist)

theorem paths_eq (same : ∀ path, path ∈ (s.files.filter keep).map Prod.fst ↔
      path ∈ (t.files.filter keep').map Prod.fst) :
    (s.files.filter keep).map Prod.fst = (t.files.filter keep').map Prod.fst := by
  have left : Sorted.Ascending id ((s.files.filter keep).map Prod.fst) := ascending_paths s keep
  exact left.eq_of_members (ascending_paths t keep') same

section Classes

theorem mem_added : path ∈ (new.diff old).added ↔
    ∃ d, new.files.lookup path = some d ∧ old.files.lookup path = none := by
  refine mem_paths.trans ?_
  simp only [Option.isNone_iff_eq_none]

theorem mem_removed : path ∈ (new.diff old).removed ↔
    ∃ d, old.files.lookup path = some d ∧ new.files.lookup path = none :=
  mem_added

theorem mem_modified : path ∈ (new.diff old).modified ↔
    ∃ d e, new.files.lookup path = some d ∧ old.files.lookup path = some e ∧ d ≠ e := by
  refine mem_paths.trans ?_
  simp only [Option.any_eq_true, decide_eq_true_eq]
  constructor
  · rintro ⟨d, held, e, earlier, differs⟩
    exact ⟨d, e, held, earlier, differs.symm⟩
  · rintro ⟨d, e, held, earlier, differs⟩
    exact ⟨d, held, e, earlier, differs.symm⟩

theorem mem_unchanged : path ∈ (new.diff old).unchanged ↔
    ∃ d, new.files.lookup path = some d ∧ old.files.lookup path = some d := by
  refine mem_paths.trans ?_
  simp only [beq_iff_eq]

theorem modified_comm (new old : Snapshot) : (old.diff new).modified = (new.diff old).modified := by
  apply paths_eq
  intro path
  refine mem_modified.trans (Iff.trans ?_ mem_modified.symm)
  constructor
  · rintro ⟨d, e, held, earlier, differs⟩
    exact ⟨e, d, earlier, held, differs.symm⟩
  · rintro ⟨d, e, held, earlier, differs⟩
    exact ⟨e, d, earlier, held, differs.symm⟩

theorem unchanged_comm (new old : Snapshot) :
    (old.diff new).unchanged = (new.diff old).unchanged := by
  apply paths_eq
  intro path
  refine mem_unchanged.trans (Iff.trans ?_ mem_unchanged.symm)
  exact exists_congr fun d => and_comm

theorem mem_changes_iff : path ∈ (new.diff old).added ∨ path ∈ (new.diff old).removed ∨
    path ∈ (new.diff old).modified ↔ new.files.lookup path ≠ old.files.lookup path := by
  rw [mem_added, mem_removed, mem_modified]
  cases new.files.lookup path with
  | none => cases old.files.lookup path <;> simp
  | some d => cases old.files.lookup path <;> simp

theorem hasChanges_iff : (new.diff old).hasChanges ↔ ∃ path, path ∈ (new.diff old).added ∨
    path ∈ (new.diff old).removed ∨ path ∈ (new.diff old).modified := by
  simp only [Diff.hasChanges, Bool.not_eq_true', Bool.and_eq_false_iff,
    List.isEmpty_eq_false_iff_exists_mem, exists_or, or_assoc]

theorem hasChanges_eq_false_iff : (new.diff old).hasChanges = false ↔ new.files = old.files := by
  rw [← Bool.not_eq_true, hasChanges_iff]
  simp only [mem_changes_iff, not_exists, not_not]
  constructor
  · exact Sorted.eq_of_lookup new.ascending old.ascending
  · intro same path
    rw [same]

end Classes

/-- Three ascending lists that share no path and together hold the paths of a snapshot. -/
structure Splits (s : Snapshot) (xs ys zs : List String) : Prop where
  ascending : ∀ part ∈ [xs, ys, zs], part.Pairwise (· < ·)
  disjoint : [xs, ys, zs].Pairwise List.Disjoint
  mem_iff : ∀ path, path ∈ s.files.map Prod.fst ↔ path ∈ xs ∨ path ∈ ys ∨ path ∈ zs

theorem splits_diff (new old : Snapshot) : Splits new (new.diff old).added (new.diff old).modified
    (new.diff old).unchanged where
  ascending := by
    simp only [List.forall_mem_cons, List.not_mem_nil, false_implies, implies_true, and_true]
    exact ⟨ascending_paths _ _, ascending_paths _ _, ascending_paths _ _⟩
  disjoint := by
    have fresh : ∀ path ∈ (new.diff old).added, old.files.lookup path = none := by
      intro path member
      obtain ⟨_, _, absent⟩ := mem_added.mp member
      exact absent
    simp only [List.pairwise_cons, List.forall_mem_cons, List.not_mem_nil, false_implies,
      implies_true, List.Pairwise.nil, and_true]
    refine ⟨⟨?_, ?_⟩, ?_⟩
    · intro path added modified
      obtain ⟨_, e, _, earlier, _⟩ := mem_modified.mp modified
      simp [fresh path added] at earlier
    · intro path added unchanged
      obtain ⟨d, _, earlier⟩ := mem_unchanged.mp unchanged
      simp [fresh path added] at earlier
    · intro path modified unchanged
      obtain ⟨d, e, held, earlier, differs⟩ := mem_modified.mp modified
      obtain ⟨same, heldToo, earlierToo⟩ := mem_unchanged.mp unchanged
      rw [held] at heldToo
      rw [earlier, ← heldToo] at earlierToo
      exact differs (Option.some.inj earlierToo).symm
  mem_iff path := by
    rw [mem_files, mem_added, mem_modified, mem_unchanged]
    cases new.files.lookup path with
    | none => simp
    | some d =>
        cases old.files.lookup path with
        | none => simp
        | some e => by_cases same : d = e <;> simp [same, @eq_comm _ e]

/-- A comparison seen from the other side. -/
def Diff.reversed (d : Diff) : Diff :=
  { d with added := d.removed, removed := d.added }

theorem diff_comm (new old : Snapshot) : old.diff new = (new.diff old).reversed := by
  rw [Diff.reversed, ← modified_comm, ← unchanged_comm]
  rfl

/-- A comparison puts a path into a class by what either snapshot holds under it. Its classes part the
paths of both snapshots, it can be reversed, and it has no changes exactly when both snapshots hold the
same files. -/
theorem diff_parts_both (a b : Snapshot) :
    (∀ path,
      (path ∈ (a.diff b).added ↔
        ∃ d, a.files.lookup path = some d ∧ b.files.lookup path = none) ∧
      (path ∈ (a.diff b).removed ↔
        ∃ e, b.files.lookup path = some e ∧ a.files.lookup path = none) ∧
      (path ∈ (a.diff b).modified ↔
        ∃ d e, a.files.lookup path = some d ∧ b.files.lookup path = some e ∧ d ≠ e) ∧
      (path ∈ (a.diff b).unchanged ↔
        ∃ d, a.files.lookup path = some d ∧ b.files.lookup path = some d)) ∧
    Splits a (a.diff b).added (a.diff b).modified (a.diff b).unchanged ∧
    Splits b (a.diff b).removed (a.diff b).modified (a.diff b).unchanged ∧
    b.diff a = (a.diff b).reversed ∧
    ((a.diff b).hasChanges = false ↔ a.files = b.files) := by
  have earlier : Splits b (b.diff a).added (b.diff a).modified (b.diff a).unchanged := splits_diff b a
  rw [diff_comm a b] at earlier
  refine ⟨?_, splits_diff a b, earlier, diff_comm a b, hasChanges_eq_false_iff⟩
  intro path
  exact ⟨mem_added, mem_removed, mem_modified, mem_unchanged⟩

end Survey.Snapshot
