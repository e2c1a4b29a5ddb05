/-!
Lists in strictly ascending order of a text key, so that every key stands in them once.
-/
namespace Survey.Sorted

variable {α : Type}

/-- An item put at its place; one of the same key gives way to it. -/
def insert (key : α → String) (a : α) : List α → List α
  | [] => [a]
  | b :: bs =>
    if key a < key b then a :: b :: bs
    else if key a = key b then a :: bs
    else b :: insert key a bs

/-- The items by key; of those with one key the first of the list is kept. -/
def ofList (key : α → String) (items : List α) : List α :=
  items.foldr (insert key) []

/-- Whether the keys of a list ascend, each above the ones before it. -/
def Ascending (key : α → String) (items : List α) : Prop :=
  items.Pairwise fun a b => key a < key b

theorem mem_insert {key : α → String} {a b : α} {items : List α} (h : b ∈ insert key a items) :
    b = a ∨ b ∈ items := by
  induction items with
  | nil => simpa [insert] using h
  | cons c items ih => grind [insert]

theorem ascending_insert {key : α → String} {items : List α} (a : α)
    (h : Ascending key items) : Ascending key (insert key a items) := by
  induction items with
  | nil => simp [insert, Ascending]
  | cons b items ih =>
    obtain ⟨above, rest⟩ := List.pairwise_cons.1 h
    unfold insert
    split
    · next below =>
      refine List.pairwise_cons.2 ⟨fun c hc => ?_, h⟩
      rcases List.mem_cons.1 hc with rfl | hc
      · exact below
      · exact String.lt_trans below (above c hc)
    · split
      · next same => exact List.pairwise_cons.2 ⟨fun c hc => same ▸ above c hc, rest⟩
      · next notBelow notSame =>
        refine List.pairwise_cons.2 ⟨fun c hc => ?_, ih rest⟩
        rcases mem_insert hc with rfl | hc
        · exact String.not_le.1 fun le => notSame (String.le_antisymm le (String.not_lt.1 notBelow))
        · exact above c hc

theorem ascending_ofList (key : α → String) (items : List α) :
    Ascending key (ofList key items) := by
  induction items with
  | nil => exact List.Pairwise.nil
  | cons a items ih => exact ascending_insert a ih

/-- The distinct texts of a list in ascending order. -/
def distinct (texts : List String) : List String :=
  ofList id texts

/-- A text put before the first one that is not below it. -/
def place (text : String) : List String → List String
  | [] => [text]
  | other :: texts => if text ≤ other then text :: other :: texts else other :: place text texts

/-- Texts in ascending order; equal ones are all kept. -/
def sort (texts : List String) : List String :=
  texts.foldr place []

/-- Entries with the value under a key changed; a key without an entry starts from the given one. -/
def change {β : Type} (start : β) (f : β → β) (key : String) (entries : List (String × β)) :
    List (String × β) :=
  insert Prod.fst (key, f ((entries.lookup key).getD start)) entries

/-- The items under each key, the keys ascending and the items of a key in their order. -/
def groups (key : α → String) (items : List α) : List (String × List α) :=
  (distinct (items.map key)).map fun k => (k, items.filter (key · = k))

end Survey.Sorted
