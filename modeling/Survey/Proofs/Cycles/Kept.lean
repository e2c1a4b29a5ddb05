import Mathlib.Data.List.Induction
import Survey.Graph.Cycles
import Survey.Proofs.Sorted

/-!
Which of the cycles that a search meets are kept. Of those with one key the first is, and keys tell
sets of members apart when no member holds the mark that keys are joined with.
-/
namespace Survey.Cycles

theorem membersKey_eq_of_mem_iff {c d : List String} (same : ∀ id, id ∈ c ↔ id ∈ d) :
    membersKey c = membersKey d := by
  unfold membersKey
  rw [Sorted.distinct_eq_distinct_iff.mpr same]

/-- Texts without the mark are read back from what it joins. -/
theorem splitOn_membersKey {c : List String} (nonempty : c ≠ [])
    (plain : ∀ id ∈ c, '|' ∉ id.toList) :
    (membersKey c).toList.splitOn '|' = (Sorted.distinct c).map String.toList := by
  unfold membersKey
  rw [String.toList_intercalate]
  apply List.splitOn_intercalate
  · intro text member
    obtain ⟨id, held, rfl⟩ := List.mem_map.mp member
    exact plain id (Sorted.mem_distinct.mp held)
  · intro none
    exact Sorted.distinct_ne_nil nonempty (List.map_eq_nil_iff.mp none)

theorem mem_iff_of_membersKey_eq {c d : List String} (hc : c ≠ []) (hd : d ≠ [])
    (plainC : ∀ id ∈ c, '|' ∉ id.toList) (plainD : ∀ id ∈ d, '|' ∉ id.toList)
    (same : membersKey c = membersKey d) : ∀ id, id ∈ c ↔ id ∈ d := by
  have texts : (Sorted.distinct c).map String.toList = (Sorted.distinct d).map String.toList := by
    rw [← splitOn_membersKey hc plainC, same, splitOn_membersKey hd plainD]
  have lists : Sorted.distinct c = Sorted.distinct d :=
    (List.map_inj_right fun _ _ => String.toList_inj.mp).mp texts
  exact Sorted.distinct_eq_distinct_iff.mp lists

namespace Search

/-- What is noted of the cycles met, in the order in which they are met. -/
def kept (met : List (List String)) : List (List String) :=
  met.foldl note []

@[simp] theorem kept_concat (met : List (List String)) (cycle : List String) :
    kept (met ++ [cycle]) = note (kept met) cycle := by
  simp only [kept, List.foldl_append, List.foldl_cons, List.foldl_nil]

theorem note_cases (found : List (List String)) (cycle : List String) :
    (note found cycle = found ∧ ∃ c ∈ found, membersKey c = membersKey cycle) ∨
      (note found cycle = found ++ [cycle] ∧ ∀ c ∈ found, membersKey c ≠ membersKey cycle) := by
  unfold note
  split
  · next known =>
    obtain ⟨c, member, same⟩ := List.any_eq_true.mp known
    exact Or.inl ⟨rfl, c, member, eq_of_beq same⟩
  · next unknown =>
    refine Or.inr ⟨rfl, ?_⟩
    intro c member same
    exact unknown (List.any_eq_true.mpr ⟨c, member, beq_iff_eq.mpr same⟩)

theorem mem_of_mem_kept {met : List (List String)} {c : List String} (h : c ∈ kept met) :
    c ∈ met := by
  induction met using List.reverseRecOn with
  | nil => exact h
  | append_singleton met cycle ih =>
      rw [kept_concat] at h
      rw [List.mem_append, List.mem_singleton]
      rcases note_cases (kept met) cycle with ⟨noted, _⟩ | ⟨noted, _⟩
      · exact Or.inl (ih (noted ▸ h))
      · rw [noted, List.mem_append, List.mem_singleton] at h
        exact h.imp ih id

theorem exists_kept_of_mem {met : List (List String)} {c : List String} (h : c ∈ met) :
    ∃ d ∈ kept met, membersKey d = membersKey c := by
  induction met using List.reverseRecOn with
  | nil => cases h
  | append_singleton met cycle ih =>
      rw [kept_concat]
      rcases List.mem_append.mp h with earlier | new
      · obtain ⟨d, member, same⟩ := ih earlier
        refine ⟨d, ?_, same⟩
        rcases note_cases (kept met) cycle with ⟨noted, _⟩ | ⟨noted, _⟩
        · exact noted.symm ▸ member
        · exact noted.symm ▸ List.mem_append_left [cycle] member
      · cases List.mem_singleton.mp new
        rcases note_cases (kept met) c with ⟨noted, known⟩ | ⟨noted, _⟩
        · exact noted.symm ▸ known
        · exact ⟨c, noted.symm ▸ List.mem_append_right (kept met) (List.mem_singleton_self c), rfl⟩

theorem kept_eq_nil_iff {met : List (List String)} : kept met = [] ↔ met = [] := by
  constructor
  · intro none
    apply List.eq_nil_iff_forall_not_mem.mpr
    intro c member
    obtain ⟨d, held, _⟩ := exists_kept_of_mem member
    rw [none] at held
    cases held
  · rintro rfl
    rfl

theorem pairwise_kept (met : List (List String)) :
    (kept met).Pairwise fun c d => membersKey c ≠ membersKey d := by
  induction met using List.reverseRecOn with
  | nil => exact List.Pairwise.nil
  | append_singleton met cycle ih =>
      rw [kept_concat]
      rcases note_cases (kept met) cycle with ⟨noted, _⟩ | ⟨noted, unknown⟩
      · exact noted.symm ▸ ih
      · rw [noted, List.pairwise_append]
        refine ⟨ih, List.pairwise_singleton _ _, ?_⟩
        intro c member d new
        cases List.mem_singleton.mp new
        exact unknown c member

end Search

end Survey.Cycles
