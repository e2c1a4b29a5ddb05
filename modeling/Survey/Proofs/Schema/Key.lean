import Survey.Proofs.Text.Digits
import Survey.Proofs.Text.Lines
import Survey.Schema.Basic

/-!
The keys of entities with ASCII names. Such a key is the name without its separators in small
letters, so that the key of a key is that key again, and the spellings of one name are told from
others by looking at their characters.
-/
namespace Survey.Text

/-- A text of ASCII characters. -/
def Ascii (s : String) : Prop :=
  ∀ c ∈ s.toList, c.isAscii

-- Named, since the instance found first would look at every character there is.
instance (s : String) : Decidable (Ascii s) :=
  List.decidableBAll _ s.toList

theorem isAscii_iff {c : Char} : c.isAscii ↔ c.toNat < 0x80 := by
  change decide (c.val < 0x80) = true ↔ _
  rw [decide_eq_true_iff, UInt32.lt_iff_toNat_lt]
  exact Iff.rfl

theorem isAscii_toUpper {c : Char} (h : c.isAscii) : c.toUpper.isAscii := by
  rcases toUpper_cases c with ⟨_, _⟩ | ⟨_, same⟩
  · rw [isAscii_iff]
    omega
  · rwa [same]

/-- No ASCII character is the sigma with a form of its own at the end of a word. -/
theorem lowerFrom_of_ascii {cs : List Char} (before : List Char) (ascii : ∀ c ∈ cs, c.isAscii) :
    lowerFrom before cs = cs.map Char.toLower := by
  induction cs generalizing before with
  | nil => rfl
  | cons c cs ih =>
      have first : c.toNat < 0x80 := isAscii_iff.mp (ascii c List.mem_cons_self)
      have noSigma : (c == 'Σ') = false := by
        rw [beq_eq_false_iff_ne]
        rintro rfl
        exact absurd first (by decide)
      have rest := ih (c :: before) fun d member => ascii d (List.mem_cons_of_mem c member)
      simp only [lowerFrom, noSigma, Bool.false_and, Bool.false_eq_true, if_false, lower, first, if_true,
        rest, List.map_cons, List.singleton_append]

end Survey.Text

namespace Survey.Schema

theorem capitalise_of_ascii {w : List Char} (ascii : ∀ c ∈ w, c.isAscii) :
    (∀ c ∈ capitalise w, c.isAscii) ∧ (capitalise w).map Char.toLower = w.map Char.toLower := by
  cases w with
  | nil => exact ⟨ascii, rfl⟩
  | cons c w =>
      have first := ascii c List.mem_cons_self
      have capital : capitalise (c :: w) = c.toUpper :: w := by
        simp only [capitalise, Text.upper, Text.isAscii_iff.mp first, if_true, List.singleton_append]
      rw [capital]
      constructor
      · intro d member
        rcases List.mem_cons.mp member with rfl | later
        · exact Text.isAscii_toUpper first
        · exact ascii d (List.mem_cons_of_mem c later)
      · rw [List.map_cons, List.map_cons, Text.toLower_toUpper]

/-- The characters of a name that count for its key. -/
def essence (name : String) : List Char :=
  (name.toList.filter fun c => c ≠ '_' ∧ c ≠ '-' ∧ c ≠ ' ').map Char.toLower

theorem essence_eq (name : String) :
    essence name = (name.toList.filter fun c => !isSeparator c).map Char.toLower := by
  have same : ∀ c : Char, decide (c ≠ '_' ∧ c ≠ '-' ∧ c ≠ ' ') = !isSeparator c := by
    intro c
    rw [Bool.eq_iff_iff]
    simp [isSeparator, and_assoc]
  simp only [essence, same]

theorem entityName_of_ascii {name : String} (ascii : Text.Ascii name) :
    Text.Ascii (entityName name) ∧ (entityName name).toList.map Char.toLower = essence name := by
  let words := (Text.pieces isSeparator name.toList).filter (· ≠ [])
  have text : (entityName name).toList = words.flatMap capitalise := String.toList_ofList
  have plain : ∀ w ∈ words, ∀ c ∈ w, c.isAscii := by
    intro w member c part
    exact ascii c (Text.mem_of_mem_piece (List.mem_of_mem_filter member) part).1
  rw [Text.Ascii, text]
  constructor
  · intro c member
    obtain ⟨w, held, part⟩ := List.mem_flatMap.mp member
    exact (capitalise_of_ascii (plain w held)).1 c part
  · calc (words.flatMap capitalise).map Char.toLower
      _ = words.flatMap fun w => (capitalise w).map Char.toLower := List.map_flatMap
      _ = words.flatMap fun w => w.map Char.toLower :=
          List.flatMap_congr fun w member => (capitalise_of_ascii (plain w member)).2
      _ = words.flatten.map Char.toLower := by rw [List.flatMap_def, List.map_flatten]
      _ = essence name := by rw [List.flatten_filter_ne_nil, Text.flatten_pieces, essence_eq]

/-- The key of an ASCII name is the name without separators in small letters. -/
theorem entityKey_of_ascii {name : String} (ascii : Text.Ascii name) :
    entityKey name = String.ofList (essence name) := by
  obtain ⟨capitals, small⟩ := entityName_of_ascii ascii
  rw [entityKey, Text.lowercase, Text.lowerFrom_of_ascii [] capitals, small]

theorem isSeparator_of_letter {c : Char} (letter : 65 ≤ c.toNat ∧ (c.toNat ≤ 90 ∨ 97 ≤ c.toNat)) :
    isSeparator c = false := by
  by_contra separates
  simp only [isSeparator, Bool.not_eq_false, Bool.or_eq_true, beq_iff_eq] at separates
  rcases separates with (rfl | rfl) | rfl <;> exact absurd letter (by decide)

theorem isSeparator_toLower (c : Char) : isSeparator c.toLower = isSeparator c := by
  rcases Text.toLower_cases c with ⟨_, _⟩ | ⟨_, same⟩
  · rw [isSeparator_of_letter (by omega), isSeparator_of_letter (by omega)]
  · rw [same]

theorem essence_of_map_toLower {name other : String}
    (small : name.toList.map Char.toLower = essence other) : essence name = essence other := by
  have kept : essence name = (name.toList.map Char.toLower).filter fun c => !isSeparator c := by
    simp [essence_eq, List.filter_map, Function.comp_def, isSeparator_toLower]
  rw [kept, small]
  simp [essence_eq, List.filter_map, Function.comp_def, isSeparator_toLower]

theorem entityKey_entityName {name : String} (ascii : Text.Ascii name) :
    entityKey (entityName name) = entityKey name := by
  obtain ⟨capitals, small⟩ := entityName_of_ascii ascii
  rw [entityKey_of_ascii capitals, entityKey_of_ascii ascii, essence_of_map_toLower small]

theorem entityKey_eq_iff {name other : String} (ascii : Text.Ascii name)
    (asciiOther : Text.Ascii other) :
    entityKey name = entityKey other ↔ essence name = essence other := by
  rw [entityKey_of_ascii ascii, entityKey_of_ascii asciiOther, String.ofList_inj]

section Lookup

variable {s : Schema} {e : Entity} {name other : String}

theorem key_of_entity? (found : s.entity? name = some e) :
    e ∈ s.entities ∧ e.key = entityKey name := by
  have matched := List.find?_some found
  exact ⟨List.mem_of_find?_eq_some found, eq_of_beq matched⟩

theorem entity?_congr (s : Schema) (same : entityKey name = entityKey other) :
    s.entity? name = s.entity? other := by
  rw [entity?, entity?, same]

end Lookup

/-- An ASCII spelling counts by its characters other than separators, in small letters. They are its
key, which its name in capitalised words has too. Two spellings have one key exactly when they agree
in them; they then find the same in every schema, and no entity is found by two that do not. -/
theorem spellings_share_key (name other : String) (ascii : Text.Ascii name)
    (asciiOther : Text.Ascii other) :
    entityKey name = String.ofList (essence name) ∧
    (entityKey name = entityKey other ↔ essence name = essence other) ∧
    entityKey (entityName name) = entityKey name ∧
    (∀ s : Schema, essence name = essence other → s.entity? name = s.entity? other) ∧
    ∀ (s : Schema) (e : Entity), s.entity? name = some e → s.entity? other = some e →
      essence name = essence other := by
  have share := entityKey_eq_iff ascii asciiOther
  refine ⟨entityKey_of_ascii ascii, share, entityKey_entityName ascii, ?_, ?_⟩
  · intro s agree
    exact entity?_congr s (share.mpr agree)
  · intro s e found foundOther
    exact share.mp ((key_of_entity? found).2.symm.trans (key_of_entity? foundOther).2)

def accounts : Entity :=
  ⟨"UserAccounts", [], []⟩

theorem accounts_found_by_spellings :
    Text.Ascii "_user--account s" ∧ Text.Ascii "USERaccounts" ∧
    entityKey "_user--account s" = entityKey "USERaccounts" ∧
    entity? { entities := [accounts] } "_user--account s" = some accounts := by
  have ascii : Text.Ascii "_user--account s" := by decide
  have asciiOther : Text.Ascii "USERaccounts" := by decide
  obtain ⟨_, share, _, find, _⟩ :=
    spellings_share_key "_user--account s" "USERaccounts" ascii asciiOther
  have agree : essence "_user--account s" = essence "USERaccounts" := by decide
  have found : entity? { entities := [accounts] } "USERaccounts" = some accounts := by
    decide +kernel
  exact ⟨ascii, asciiOther, share.mpr agree, (find _ agree).trans found⟩

end Survey.Schema
