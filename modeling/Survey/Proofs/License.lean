import Survey.License
import Survey.Proofs.Calendar.Date
import Survey.Proofs.Text.Lines

/-!
Which keys are licenses. A key holds exactly when it is a payload with its signature, in either case,
and a payload with a date has not passed it.
-/
namespace Survey.License

open Survey.Text

variable {key payload sign : String} {today : Date}

section Parts

theorem cut_eq_some_iff {before after : List Char} :
    (dropLeading? lead key).bind (fun rest => cutLast? (· = '-') rest.toList) =
        some (before, after) ↔
      key = lead ++ String.ofList before ++ "-" ++ String.ofList after ∧ '-' ∉ after := by
  simp only [Option.bind_eq_some_iff, dropLeading?_eq_some_iff, cutLast?_eq_some_iff,
    decide_eq_true_eq, decide_eq_false_iff_not]
  constructor
  · rintro ⟨rest, rfl, c, rfl, whole, clear⟩
    refine ⟨?_, fun held => clear _ held rfl⟩
    rw [← String.toList_inj]
    simp only [String.toList_append, whole, String.toList_ofList, List.append_assoc]
    rfl
  · rintro ⟨rfl, clear⟩
    refine ⟨String.ofList before ++ "-" ++ String.ofList after, ?_, '-', rfl, ?_, ?_⟩
    · rw [String.append_assoc, String.append_assoc, String.append_assoc]
    · simp only [String.toList_append, String.toList_ofList, List.append_assoc]
      rfl
    · rintro d held rfl
      exact clear held

theorem parts?_eq_some_iff :
    parts? key = some (payload, sign) ↔
      key = lead ++ payload ++ "-" ++ sign ∧ '-' ∉ sign.toList ∧ payload ≠ "" := by
  unfold parts?
  constructor
  · intro found
    split at found
    · next before after whole =>
      obtain ⟨written, clear⟩ := cut_eq_some_iff.mp whole
      split at found
      · cases found
      · next nonempty =>
        cases found
        refine ⟨written, by rwa [String.toList_ofList], ?_⟩
        intro empty
        apply nonempty
        rw [List.isEmpty_iff, ← String.toList_ofList (l := before), empty]
        rfl
    · cases found
  · rintro ⟨written, clear, nonempty⟩
    rw [← payload.ofList_toList, ← sign.ofList_toList] at written
    have whole := cut_eq_some_iff.mpr ⟨written, clear⟩
    have filled : ¬ payload.toList.isEmpty := by
      rw [List.isEmpty_iff]
      exact fun empty => nonempty (String.toList_eq_nil_iff.mp empty)
    rw [whole]
    simp only [if_neg filled, String.ofList_toList]

end Parts

section Signatures

theorem length_code (payload : String) : (code payload).length = 32 := rfl

theorem length_signature (payload : String) : (signature payload).toList.length = 16 := by
  rw [signature, length_hex, List.length_take, length_code]
  rfl

theorem lowercaseAscii_signature (payload : String) :
    lowercaseAscii (signature payload) = signature payload :=
  lowercaseAscii_hex _

/-- What signs a payload is its signature in any case, and nothing else. -/
theorem signs_iff : signs sign payload ↔ lowercaseAscii sign = signature payload := by
  rw [signs, Bool.and_eq_true, beq_iff_eq]
  constructor
  · rintro ⟨sixteen, verified⟩
    split at verified
    · next tag read =>
      have written := unhex?_lowercaseAscii_iff.mp read
      have length := length_encode_of_lowercaseAscii written
      have eight : tag.length = 8 := by omega
      have leading := List.prefix_iff_eq_take.mp (List.isPrefixOf_iff_prefix.mp verified)
      rw [written, signature, ← eight, ← leading]
    · cases verified
  · intro written
    have length := length_encode_of_lowercaseAscii written
    rw [List.length_take, length_code] at length
    refine ⟨length, ?_⟩
    rw [unhex?_lowercaseAscii_iff.mpr written]
    exact List.isPrefixOf_iff_prefix.mpr (List.take_prefix 8 (code payload))

end Signatures

section Days

/-- The payload begins with eight bytes of digits. -/
def Dated (payload : String) : Prop :=
  8 ≤ (Utf8.encode payload).length ∧ ∀ b ∈ (Utf8.encode payload).take 8, IsDigitByte b

/-- The first eight bytes of the payload are year, month and day of a day of the calendar. -/
def Spells (payload : String) (d : Date) : Prop :=
  d.exists? ∧ ∃ year month day : Nat,
    d = ⟨year, month, day⟩ ∧ (Utf8.encode payload).take 8 = Utf8.encode (Date.compact year month day)

/-- A payload that names no day, or one that has not passed. -/
def Current (payload : String) (today : Date) : Prop :=
  ¬ Dated payload ∨ ∃ d, Spells payload d ∧ ¬ d.before today

theorem dated_iff :
    Dated payload ↔ 8 ≤ payload.toList.length ∧ ∀ c ∈ payload.toList.take 8, c.isDigit := by
  rw [Dated, encode_eq]
  exact digits_of_take_bytes 8 payload.toList

theorem dateDigits?_of_dated (dated : Dated payload) :
    dateDigits? payload = some (payload.toList.take 8) := by
  obtain ⟨enough, all⟩ := dated_iff.mp dated
  exact if_pos ⟨by rw [List.length_take, Nat.min_eq_left enough], List.all_eq_true.mpr all⟩

theorem dateDigits?_of_not_dated (free : ¬ Dated payload) : dateDigits? payload = none := by
  apply if_neg
  rintro ⟨eight, all⟩
  rw [List.length_take] at eight
  exact free (dated_iff.mpr ⟨by omega, List.all_eq_true.mp all⟩)

theorem spells_iff (dated : Dated payload) {d : Date} :
    Spells payload d ↔ Date.ofDigits? (payload.toList.take 8) = some d := by
  obtain ⟨enough, all⟩ := dated_iff.mp dated
  have ascii : ∀ c ∈ payload.toList.take 8, c.toNat < 128 := by
    intro c held
    have bounds := isDigit_iff.mp (all c held)
    omega
  have eight : (payload.toList.take 8).length = 8 := by rw [List.length_take, Nat.min_eq_left enough]
  rw [Date.ofDigits?_eq_some_iff, Spells, take_encode enough ascii]
  constructor
  · rintro ⟨real, year, month, day, rfl, same⟩
    have text := congrArg String.toList (encode_injective same)
    rw [String.toList_ofList] at text
    exact ⟨eight, real, year, month, day, rfl, text⟩
  · rintro ⟨-, real, year, month, day, rfl, text⟩
    exact ⟨real, year, month, day, rfl, by rw [text, String.ofList_toList]⟩

theorem grant_isValid_iff : (grant payload today).isValid ↔ Current payload today := by
  by_cases dated : Dated payload
  · rw [grant, dateDigits?_of_dated dated, Current]
    simp only [dated, not_true_eq_false, false_or, spells_iff dated]
    cases read : Date.ofDigits? (payload.toList.take 8) with
    | none => simp [Standing.isValid]
    | some last => cases passed : last.before today <;> simp [Standing.isValid, passed]
  · rw [grant, dateDigits?_of_not_dated dated]
    exact iff_of_true rfl (.inl dated)

theorem Current.earlier {day earlier : Date} (before : earlier.before day)
    (current : Current payload day) : Current payload earlier := by
  rcases current with free | ⟨d, spelled, lasting⟩
  · exact .inl free
  · exact .inr ⟨d, spelled, fun passed => lasting (Date.before_trans passed before)⟩

end Days

/-- What makes a text the key for a payload on a day. -/
structure Holds (key payload sign : String) (today : Date) : Prop where
  written : key = lead ++ payload ++ "-" ++ sign
  last : '-' ∉ sign.toList
  nonempty : payload ≠ ""
  signed : lowercaseAscii sign = lowercaseAscii (signature payload)
  current : Current payload today

theorem check_isValid_iff :
    (check (some key) today).isValid ↔ ∃ payload sign, Holds (trimmed key) payload sign today := by
  unfold check
  simp only [Option.getD_some]
  constructor
  · intro valid
    split at valid
    · cases valid
    · split at valid
      · cases valid
      · next payload sign parts =>
        obtain ⟨written, last, nonempty⟩ := parts?_eq_some_iff.mp parts
        split at valid
        · next signed =>
          have folded := (signs_iff.mp signed).trans (lowercaseAscii_signature payload).symm
          exact ⟨payload, sign, written, last, nonempty, folded, grant_isValid_iff.mp valid⟩
        · cases valid
  · rintro ⟨payload, sign, written, last, nonempty, folded, current⟩
    have parts := parts?_eq_some_iff.mpr ⟨written, last, nonempty⟩
    have signed := signs_iff.mpr (folded.trans (lowercaseAscii_signature payload))
    have filled : trimmed key ≠ "" := by
      intro empty
      rw [empty] at parts
      cases parts
    simp only [if_neg filled, parts, if_pos signed]
    exact grant_isValid_iff.mpr current

section Issued

theorem not_isBlank_of_mem_signature {c : Char} (held : c ∈ (signature payload).toList) :
    isBlank c = false ∧ c ≠ '-' := by
  have all : ∀ n < 16, isBlank (Nat.digitChar n) = false ∧ Nat.digitChar n ≠ '-' := by decide
  obtain ⟨n, small, rfl⟩ := mem_hex held
  exact all n small

theorem trimmed_keyOf (payload : String) : trimmed (keyOf payload) = keyOf payload := by
  have filled : (signature payload).toList ≠ [] := by
    intro empty
    have length := length_signature payload
    rw [empty] at length
    cases length
  have text : (keyOf payload).toList =
      'A' :: ("L-PRO-".toList ++ payload.toList ++ ['-']) ++ (signature payload).toList := by
    rw [keyOf, String.toList_append, String.toList_append, String.toList_append]
    rfl
  have kept : trim ([] ++ ((keyOf payload).toList ++ [])) = (keyOf payload).toList := by
    apply trim_append (List.forall_mem_nil _) (List.forall_mem_nil _)
    · rw [text]
      exact List.cons_ne_nil _ _
    · intro c first
      rw [text] at first
      cases first
      decide
    · intro c final
      rw [text, List.getLast?_append_of_ne_nil _ filled] at final
      exact (not_isBlank_of_mem_signature (List.mem_of_getLast? final)).1
  rw [List.nil_append, List.append_nil] at kept
  rw [trimmed, kept, String.ofList_toList]

theorem holds_keyOf (nonempty : payload ≠ "") (current : Current payload today) :
    Holds (keyOf payload) payload (signature payload) today where
  written := rfl
  last held := (not_isBlank_of_mem_signature held).2 rfl
  nonempty := nonempty
  signed := rfl
  current := current

/-- The key for a payload is a license as long as the payload is current. -/
theorem check_keyOf_isValid_iff (nonempty : payload ≠ "") :
    (check (some (keyOf payload)) today).isValid ↔ Current payload today := by
  rw [check_isValid_iff, trimmed_keyOf]
  constructor
  · rintro ⟨other, sign, holds⟩
    have own : parts? (keyOf payload) = some (payload, signature payload) :=
      parts?_eq_some_iff.mpr ⟨rfl, fun held => (not_isBlank_of_mem_signature held).2 rfl, nonempty⟩
    have parts := parts?_eq_some_iff.mpr ⟨holds.written, holds.last, holds.nonempty⟩
    cases own.symm.trans parts
    exact holds.current
  · intro current
    exact ⟨payload, signature payload, holds_keyOf nonempty current⟩

end Issued

/-- A key is a license on a day exactly when it is written for a payload, signed and current. So the
key for a payload without a date is one on every day, and a license is one on every day before. -/
theorem valid_iff_signed_and_current :
    (∀ key today, (check (some key) today).isValid ↔
        ∃ payload sign, Holds (trimmed key) payload sign today) ∧
      (∀ payload today, payload ≠ "" → ¬ Dated payload →
        (check (some (keyOf payload)) today).isValid) ∧
      ∀ key day earlier, earlier.before day → (check (some key) day).isValid →
        (check (some key) earlier).isValid := by
  refine ⟨fun key today => check_isValid_iff, ?_, ?_⟩
  · intro payload today nonempty free
    exact (check_keyOf_isValid_iff nonempty).mpr (.inl free)
  · intro key day earlier before valid
    obtain ⟨payload, sign, holds⟩ := check_isValid_iff.mp valid
    exact check_isValid_iff.mpr
      ⟨payload, sign, { holds with current := holds.current.earlier before }⟩

/-- A payload may hold hyphens, and its key was a license the day before as well; a payload with a
date holds on that day. -/
theorem issuedKeys_valid :
    (check (some (keyOf "team-acme")) ⟨2026, 1, 1⟩).isValid ∧
      (check (some (keyOf "team-acme")) ⟨2025, 12, 31⟩).isValid ∧
      (check (some (keyOf "20260630")) ⟨2026, 6, 30⟩).isValid := by
  have free : ¬ Dated "team-acme" := by
    rw [dated_iff]
    decide
  have spelled : Spells "20260630" ⟨2026, 6, 30⟩ :=
    ⟨by decide, 2026, 6, 30, rfl, by decide +kernel⟩
  have current : Current "20260630" ⟨2026, 6, 30⟩ := .inr ⟨_, spelled, by decide⟩
  have valid := valid_iff_signed_and_current.2.1 "team-acme" ⟨2026, 1, 1⟩ (by decide) free
  refine ⟨valid, valid_iff_signed_and_current.2.2 _ _ _ (by decide) valid, ?_⟩
  rw [valid_iff_signed_and_current.1, trimmed_keyOf]
  exact ⟨"20260630", signature "20260630", holds_keyOf (by decide) current⟩

end Survey.License
