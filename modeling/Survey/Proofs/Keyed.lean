import Mathlib.Data.List.Nodup

/-!
Items with keys. An item whose key no other has is the one found under it, and of a list in which
keys recur the first item of every key can be kept.
-/
namespace Survey.Keyed

variable {α β : Type} {key : α → String} {items : List α} {a : α}

theorem find?_of_mem {k : String} (nodup : (items.map key).Nodup) (member : a ∈ items)
    (named : key a = k) : items.find? (fun b => key b == k) = some a := by
  cases found : items.find? (fun b => key b == k) with
  | none => exact absurd (beq_iff_eq.mpr named) (List.find?_eq_none.mp found a member)
  | some b =>
      have matched : key b = k := by simpa using List.find?_some found
      rw [List.inj_on_of_nodup_map nodup (List.mem_of_find?_eq_some found) member
        (matched.trans named.symm)]

theorem find?_eq_none {k : String} (absent : k ∉ items.map key) :
    items.find? (fun b => key b == k) = none := by
  apply List.find?_eq_none.mpr
  intro b held named
  exact absent (eq_of_beq named ▸ List.mem_map_of_mem held)

theorem find?_eq_some_iff {k : String} (nodup : (items.map key).Nodup) :
    items.find? (fun b => key b == k) = some a ↔ a ∈ items ∧ key a = k := by
  constructor
  · intro found
    have matched := List.find?_some found
    exact ⟨List.mem_of_find?_eq_some found, eq_of_beq matched⟩
  · rintro ⟨member, named⟩
    exact find?_of_mem nodup member named

theorem find?_perm {others : List α} (perm : items.Perm others) (nodup : (items.map key).Nodup)
    (k : String) : items.find? (fun b => key b == k) = others.find? fun b => key b == k := by
  have nodup' : (others.map key).Nodup := (perm.map key).nodup_iff.mp nodup
  apply Option.ext
  intro a
  rw [find?_eq_some_iff nodup, find?_eq_some_iff nodup', perm.mem_iff]

theorem nodup_eraseDups [BEq α] [LawfulBEq α] (items : List α) : items.eraseDups.Nodup := by
  match items with
  | [] => simp
  | first :: rest =>
      rw [List.eraseDups_cons, List.nodup_cons, List.mem_eraseDups]
      exact ⟨by simp, nodup_eraseDups _⟩
termination_by items.length
decreasing_by exact Nat.lt_succ_of_le (List.length_filter_le _ rest)

theorem eraseRepsBy_loop (r : α → α → Bool) (a : α) (items before : List α) :
    List.eraseRepsBy.loop r a items before =
      before.reverse ++ a :: (items.dropWhile (r a)).eraseRepsBy r := by
  induction items generalizing a before with
  | nil => simp [List.eraseRepsBy.loop, List.eraseRepsBy]
  | cons b items ih =>
      rw [List.eraseRepsBy.loop]
      cases same : r a b with
      | true => simp only [ih, List.dropWhile_cons, same, if_true]
      | false =>
          simp only [ih, List.dropWhile_cons, same, Bool.false_eq_true, if_false, List.eraseRepsBy,
            List.reverse_cons, List.reverse_nil, List.append_assoc, List.singleton_append,
            List.nil_append]

theorem eraseRepsBy_cons (r : α → α → Bool) (a : α) (items : List α) :
    (a :: items).eraseRepsBy r = a :: (items.dropWhile (r a)).eraseRepsBy r :=
  eraseRepsBy_loop r a items []

/-- What a list yields when only one of its items yields anything. -/
theorem flatMap_of_unique {f : α → List β} (nodup : items.Nodup) (member : a ∈ items)
    (others : ∀ b ∈ items, b ≠ a → f b = []) : items.flatMap f = f a := by
  obtain ⟨before, after, rfl⟩ := List.append_of_mem member
  have apart := List.nodup_middle.mp nodup
  have left : before.flatMap f = [] := by
    apply List.flatMap_eq_nil_iff.mpr
    intro b held
    apply others b (List.mem_append_left _ held)
    rintro rfl
    exact (List.nodup_cons.mp apart).1 (List.mem_append_left _ held)
  have right : after.flatMap f = [] := by
    apply List.flatMap_eq_nil_iff.mpr
    intro b held
    apply others b (List.mem_append_right _ (List.mem_cons_of_mem a held))
    rintro rfl
    exact (List.nodup_cons.mp apart).1 (List.mem_append_right _ held)
  rw [List.flatMap_append, List.flatMap_cons, left, right, List.nil_append, List.append_nil]

/-- What the items with a property yield, looked at for one key. -/
theorem filter_map_of_unique {f : α → β} {q : α → Bool} {p : β → Bool}
    (nodup : (items.map key).Nodup) (member : a ∈ items)
    (only : ∀ b ∈ items, p (f b) ↔ key b = key a) :
    ((items.filter q).map f).filter p = if q a then [f a] else [] := by
  have held : p (f a) := (only a member).mpr rfl
  have alone : items.filter (fun b => p (f b) && q b) = if q a then [a] else [] := by
    rw [← List.filterMap_eq_filter, List.filterMap_eq_flatMap_toList,
      flatMap_of_unique nodup.of_map member]
    · cases chosen : q a <;> simp [Option.guard, held, chosen]
    · intro b listed other
      have apart : p (f b) = false := by
        rw [Bool.eq_false_iff, ne_eq, only b listed]
        exact fun same => other (List.inj_on_of_nodup_map nodup listed member same)
      simp [Option.guard, apart]
  rw [List.filter_map, List.filter_filter]
  simp only [Function.comp_def, alone]
  split <;> rfl

end Survey.Keyed
