import Mathlib.Data.List.Sort
import Survey.Proofs.Keyed
import Survey.Sorted

/-!
What an ascending list holds. Building one neither loses nor invents a key, and an ascending list is
determined by its members alone; one of entries, by what is found under each key.
-/
namespace Survey.Sorted

variable {α : Type}

theorem mem_map_key_insert {key : α → String} {a : α} {items : List α} {k : String} :
    k ∈ (insert key a items).map key ↔ k = key a ∨ k ∈ items.map key := by
  induction items with
  | nil => simp only [insert, List.map_cons, List.map_nil, List.mem_singleton, List.not_mem_nil, or_false]
  | cons b items ih =>
      unfold insert
      split
      · simp only [List.map_cons, List.mem_cons]
      · split
        · next same => simp only [List.map_cons, List.mem_cons, same, or_self_left]
        · simp only [List.map_cons, List.mem_cons, ih]
          exact or_left_comm

/-- The keys of the list built from items are the keys of the items. -/
theorem mem_map_key_ofList {key : α → String} {items : List α} {k : String} :
    k ∈ (ofList key items).map key ↔ k ∈ items.map key := by
  induction items with
  | nil => exact Iff.rfl
  | cons a items ih =>
      change k ∈ (insert key a (ofList key items)).map key ↔ k ∈ (a :: items).map key
      rw [mem_map_key_insert, ih, List.map_cons, List.mem_cons]

theorem mem_insert_iff {key : α → String} {a b : α} {items : List α} (asc : Ascending key items) :
    b ∈ insert key a items ↔ b = a ∨ b ∈ items ∧ key b ≠ key a := by
  induction items with
  | nil => simp [insert]
  | cons c items ih =>
      obtain ⟨above, rest⟩ := List.pairwise_cons.mp asc
      have apart : ∀ d ∈ items, key d ≠ key c := by
        intro d member same
        exact String.lt_irrefl (key c) (same ▸ above d member)
      unfold insert
      split
      · next below =>
        have notFirst : ∀ d ∈ c :: items, key d ≠ key a := by
          intro d member same
          rcases List.mem_cons.mp member with rfl | later
          · exact String.lt_irrefl (key a) (same ▸ below)
          · exact String.lt_irrefl (key a) (String.lt_trans below (same ▸ above d later))
        rw [List.mem_cons]
        exact or_congr Iff.rfl ⟨fun held => ⟨held, notFirst b held⟩, And.left⟩
      · split
        · next same =>
          rw [List.mem_cons, List.mem_cons, same]
          refine or_congr Iff.rfl ⟨fun held => ⟨Or.inr held, apart b held⟩, ?_⟩
          rintro ⟨rfl | held, differs⟩
          · exact absurd rfl differs
          · exact held
        · next differs =>
          rw [List.mem_cons, ih rest, List.mem_cons]
          constructor
          · rintro (rfl | rfl | ⟨held, other⟩)
            · exact Or.inr ⟨Or.inl rfl, Ne.symm differs⟩
            · exact Or.inl rfl
            · exact Or.inr ⟨Or.inr held, other⟩
          · rintro (rfl | ⟨rfl | held, other⟩)
            · exact Or.inr (Or.inl rfl)
            · exact Or.inl rfl
            · exact Or.inr (Or.inr ⟨held, other⟩)

/-- Of the items with one key exactly the first is kept. -/
theorem mem_ofList_iff {key : α → String} {items : List α} {a : α} :
    a ∈ ofList key items ↔ items.find? (key · = key a) = some a := by
  induction items with
  | nil => simp [ofList]
  | cons b items ih =>
      change a ∈ insert key b (ofList key items) ↔ _
      rw [mem_insert_iff (ascending_ofList key items), ih, List.find?_cons]
      by_cases same : key b = key a
      · simp [same, eq_comm]
      · simp only [same, decide_false, Ne.symm same, ne_eq, not_false_eq_true, and_true]
        exact or_iff_right (by rintro rfl; exact same rfl)

theorem length_insert_le (key : α → String) (a : α) (items : List α) :
    (insert key a items).length ≤ items.length + 1 := by
  induction items with
  | nil => exact Nat.le_refl 1
  | cons b items ih =>
      unfold insert
      split
      · exact Nat.le_refl _
      · split
        · exact Nat.le_succ _
        · exact Nat.succ_le_succ ih

theorem length_ofList_le (key : α → String) (items : List α) :
    (ofList key items).length ≤ items.length := by
  induction items with
  | nil => exact Nat.le_refl 0
  | cons a items ih => exact Nat.le_trans (length_insert_le key a _) (Nat.succ_le_succ ih)

@[simp] theorem mem_distinct {text : String} {texts : List String} :
    text ∈ distinct texts ↔ text ∈ texts := by
  have keys : text ∈ (ofList id texts).map id ↔ text ∈ texts.map id := mem_map_key_ofList
  rwa [List.map_id, List.map_id] at keys

theorem ascending_distinct (texts : List String) : (distinct texts).Pairwise (· < ·) :=
  ascending_ofList id texts

theorem Ascending.nodup {key : α → String} {items : List α} (asc : Ascending key items) :
    items.Nodup := by
  refine List.Pairwise.imp ?_ asc
  intro a b below same
  subst same
  exact String.lt_irrefl (key a) below

theorem nodup_of_ascending {texts : List String} (h : texts.Pairwise (· < ·)) : texts.Nodup := by
  have asc : Ascending id texts := h
  exact asc.nodup

theorem nodup_distinct (texts : List String) : (distinct texts).Nodup :=
  nodup_of_ascending (ascending_distinct texts)

/-- Two ascending lists with the same members are one list. -/
theorem Ascending.eq_of_members {key : α → String} {xs ys : List α} (hx : Ascending key xs)
    (hy : Ascending key ys) (same : ∀ a, a ∈ xs ↔ a ∈ ys) : xs = ys := by
  have perm : xs.Perm ys := (List.perm_ext_iff_of_nodup hx.nodup hy.nodup).mpr same
  refine List.Perm.eq_of_pairwise ?_ hx hy perm
  intro a b _ _ below above
  exact absurd (String.lt_trans below above) (String.lt_irrefl (key a))

/-- What is built from items depends on the first item of every key alone. -/
theorem ofList_congr {key : α → String} {items others : List α}
    (first : ∀ k, items.find? (key · = k) = others.find? (key · = k)) :
    ofList key items = ofList key others := by
  apply (ascending_ofList key items).eq_of_members (ascending_ofList key others)
  intro a
  rw [mem_ofList_iff, mem_ofList_iff, first]

theorem distinct_eq_distinct_iff {xs ys : List String} :
    distinct xs = distinct ys ↔ ∀ text, text ∈ xs ↔ text ∈ ys := by
  constructor
  · intro same text
    rw [← mem_distinct, same, mem_distinct]
  · intro same
    apply Ascending.eq_of_members (ascending_ofList id xs) (ascending_ofList id ys)
    intro text
    change text ∈ distinct xs ↔ text ∈ distinct ys
    rw [mem_distinct, mem_distinct]
    exact same text

theorem distinct_ne_nil {texts : List String} (h : texts ≠ []) : distinct texts ≠ [] := by
  obtain ⟨text, member⟩ := List.exists_mem_of_ne_nil texts h
  exact List.ne_nil_of_mem (mem_distinct.mpr member)

section Entries

variable {β : Type} {xs ys : List (String × β)} {k : String} {b : β}

/-- An ascending list of entries has one entry for a key, the one that is looked up. -/
theorem lookup_eq_some_iff (asc : Ascending Prod.fst xs) : xs.lookup k = some b ↔ (k, b) ∈ xs := by
  induction xs with
  | nil => simp
  | cons entry xs ih =>
      obtain ⟨above, rest⟩ := List.pairwise_cons.mp asc
      rw [List.lookup_cons, List.mem_cons]
      split
      · next same =>
        have named : k = entry.1 := eq_of_beq same
        constructor
        · intro found
          exact Or.inl (Prod.ext named (Option.some.inj found).symm)
        · rintro (rfl | later)
          · rfl
          · exact absurd (above _ later) (named ▸ String.lt_irrefl k)
      · next other =>
        rw [ih rest]
        refine (or_iff_right ?_).symm
        rintro rfl
        exact beq_eq_false_iff_ne.mp other rfl

theorem eq_of_lookup (hx : Ascending Prod.fst xs) (hy : Ascending Prod.fst ys)
    (same : ∀ k, xs.lookup k = ys.lookup k) : xs = ys := by
  apply hx.eq_of_members hy
  rintro ⟨k, b⟩
  rw [← lookup_eq_some_iff hx, same, lookup_eq_some_iff hy]

theorem lookup_insert (asc : Ascending Prod.fst xs) (other : String) :
    (insert Prod.fst (k, b) xs).lookup other = if other = k then some b else xs.lookup other := by
  apply Option.ext
  intro c
  rw [lookup_eq_some_iff (ascending_insert (k, b) asc), mem_insert_iff asc]
  split
  · next same =>
    subst same
    simp [eq_comm]
  · next differs =>
    rw [lookup_eq_some_iff asc]
    simp [differs]

theorem lookup_change (asc : Ascending Prod.fst xs) (start : β) (f : β → β) (k other : String) :
    (change start f k xs).lookup other =
      if other = k then some (f ((xs.lookup k).getD start)) else xs.lookup other :=
  lookup_insert asc other

theorem ascending_change (asc : Ascending Prod.fst xs) (start : β) (f : β → β) (k : String) :
    Ascending Prod.fst (change start f k xs) :=
  ascending_insert _ asc

end Entries

section Texts

variable {xs ys : List String}

theorem place_eq_orderedInsert (text : String) (texts : List String) :
    place text texts = texts.orderedInsert (· ≤ ·) text := by
  induction texts with
  | nil => rfl
  | cons other texts ih => rw [place, ih, List.orderedInsert_cons]

theorem sort_eq_insertionSort (texts : List String) : sort texts = texts.insertionSort (· ≤ ·) := by
  induction texts with
  | nil => rfl
  | cons text texts ih =>
      rw [List.insertionSort_cons, ← ih, ← place_eq_orderedInsert]
      rfl

theorem perm_sort (xs : List String) : (sort xs).Perm xs :=
  sort_eq_insertionSort xs ▸ List.perm_insertionSort _ xs

@[simp] theorem mem_sort {text : String} : text ∈ sort xs ↔ text ∈ xs :=
  (perm_sort xs).mem_iff

theorem pairwise_sort (xs : List String) : (sort xs).Pairwise (· ≤ ·) :=
  sort_eq_insertionSort xs ▸ List.pairwise_insertionSort _ xs

/-- Texts of which none recurs ascend strictly when sorted. -/
theorem ascending_sort (nodup : xs.Nodup) : (sort xs).Pairwise (· < ·) := by
  have distinct : (sort xs).Pairwise (· ≠ ·) := (perm_sort xs).nodup_iff.mpr nodup
  refine (pairwise_sort xs).imp₂ ?_ distinct
  intro a b below differs
  exact String.not_le.mp fun above => differs (String.le_antisymm below above)

theorem sort_eq_of_ordered (perm : xs.Perm ys) (ordered : ys.Pairwise (· ≤ ·)) : sort xs = ys := by
  refine List.Perm.eq_of_pairwise ?_ (pairwise_sort xs) ordered ((perm_sort xs).trans perm)
  intro a b _ _ below above
  exact String.le_antisymm below above

/-- The order in which texts are given does not matter to sorting. -/
theorem sort_eq_of_perm (perm : xs.Perm ys) : sort xs = sort ys :=
  sort_eq_of_ordered (perm.trans (perm_sort ys).symm) (pairwise_sort ys)

theorem eraseReps_cons_cons (a b : String) (texts : List String) : (a :: b :: texts).eraseReps =
    if a = b then (b :: texts).eraseReps else a :: (b :: texts).eraseReps := by
  simp only [List.eraseReps, Keyed.eraseRepsBy_cons, List.dropWhile_cons, beq_iff_eq]
  split
  · next same => rw [same]
  · rw [Keyed.eraseRepsBy_cons]

theorem mem_eraseReps {text : String} : text ∈ xs.eraseReps ↔ text ∈ xs := by
  induction xs with
  | nil => exact Iff.rfl
  | cons a xs ih =>
      cases xs with
      | nil => exact Iff.rfl
      | cons b xs =>
          rw [eraseReps_cons_cons, List.mem_cons]
          split
          · next same => rw [ih, same, List.mem_cons, or_self_left]
          · rw [List.mem_cons, ih]

/-- Of texts in order those left without repeats ascend strictly. -/
theorem ascending_eraseReps (ordered : xs.Pairwise (· ≤ ·)) : xs.eraseReps.Pairwise (· < ·) := by
  induction xs with
  | nil => exact List.Pairwise.nil
  | cons a xs ih =>
      obtain ⟨above, rest⟩ := List.pairwise_cons.mp ordered
      cases xs with
      | nil => exact List.pairwise_singleton _ a
      | cons b xs =>
          rw [eraseReps_cons_cons]
          split
          · exact ih rest
          · next differs =>
            refine List.pairwise_cons.mpr ⟨fun c held => ?_, ih rest⟩
            have below : a < b := String.not_le.mp fun le =>
              differs (String.le_antisymm (above b List.mem_cons_self) le)
            rcases List.mem_cons.mp (mem_eraseReps.mp held) with rfl | later
            · exact below
            · have next := (List.pairwise_cons.mp rest).1 c later
              exact String.not_le.mp fun le => String.not_le.mpr below (String.le_trans next le)

/-- Sorting and leaving repeats out gives the distinct texts. -/
theorem eraseReps_sort (xs : List String) : (sort xs).eraseReps = distinct xs := by
  apply Ascending.eq_of_members (ascending_eraseReps (pairwise_sort xs)) (ascending_distinct xs)
  intro text
  rw [mem_eraseReps, mem_sort, mem_distinct]

end Texts

end Survey.Sorted
