import Survey.Calendar.Date
import Survey.Proofs.Text.Digits

/-!
Days and the eight digits that write them. Year, month and day with zeros in front are read back as
the day that they name, and every eight digits of a day are of this form.
-/
namespace Survey.Date

variable {d e f : Date} {digits : List Char}

theorem before_iff : d.before e ↔
    d.year < e.year ∨ d.year = e.year ∧ (d.month < e.month ∨ d.month = e.month ∧ d.day < e.day) := by
  rw [before, decide_eq_true_iff]

theorem before_trans (first : d.before e) (second : e.before f) : d.before f := by
  rw [before_iff] at first second ⊢
  omega

def compact (year month day : Nat) : String :=
  Text.decimal 4 year ++ Text.decimal 2 month ++ Text.decimal 2 day

theorem of?_eq_some_iff {year : Int} {month day : Nat} :
    of? year month day = some d ↔ d = ⟨year, month, day⟩ ∧ d.exists? := by
  unfold of?
  constructor
  · intro made
    simp only at made
    split at made
    · next real =>
      cases made
      exact ⟨rfl, real⟩
    · cases made
  · rintro ⟨rfl, real⟩
    exact if_pos real

theorem isDigit_of_mem_compact {year month day : Nat} {c : Char}
    (held : c ∈ (compact year month day).toList) : c.isDigit := by
  rw [compact, String.toList_append, String.toList_append, List.mem_append, List.mem_append] at held
  rcases held with (held | held) | held <;> exact Text.isDigit_of_mem_decimal held

theorem decimal_number {part : List Char} {width : Nat} (positive : 0 < width)
    (length : part.length = width) (all : ∀ c ∈ part, c.isDigit) :
    (Text.decimal width (number part)).toList = part := by
  subst length
  exact Text.decimal_ofDigitChars (List.length_pos_iff.mp positive) all

theorem number_decimal (width n : Nat) : number (Text.decimal width n).toList = n :=
  Text.ofDigitChars_decimal width n

theorem compact_number (eight : digits.length = 8) (all : ∀ c ∈ digits, c.isDigit) :
    (compact (number (digits.take 4)) (number ((digits.drop 4).take 2))
      (number (digits.drop 6))).toList = digits := by
  have year : (Text.decimal 4 (number (digits.take 4))).toList = digits.take 4 :=
    decimal_number (by decide) (by simp [eight]) fun c held => all c (List.mem_of_mem_take held)
  have month : (Text.decimal 2 (number ((digits.drop 4).take 2))).toList = (digits.drop 4).take 2 :=
    decimal_number (by decide) (by simp [eight]) fun c held =>
      all c (List.mem_of_mem_drop (List.mem_of_mem_take held))
  have day : (Text.decimal 2 (number (digits.drop 6))).toList = digits.drop 6 :=
    decimal_number (by decide) (by simp [eight]) fun c held => all c (List.mem_of_mem_drop held)
  have rest : (digits.drop 4).take 2 ++ digits.drop 6 = digits.drop 4 := by
    have split := List.take_append_drop 2 (digits.drop 4)
    rwa [List.drop_drop] at split
  rw [compact, String.toList_append, String.toList_append, year, month, day, List.append_assoc, rest,
    List.take_append_drop]

theorem number_parts_compact {year month day : Nat}
    (eight : (compact year month day).toList.length = 8) :
    number ((compact year month day).toList.take 4) = year ∧
      number (((compact year month day).toList.drop 4).take 2) = month ∧
      number ((compact year month day).toList.drop 6) = day := by
  rw [compact, String.toList_append, String.toList_append] at eight ⊢
  have years := Text.width_le_length_decimal 4 year
  have months := Text.width_le_length_decimal 2 month
  have days := Text.width_le_length_decimal 2 day
  rw [List.length_append, List.length_append] at eight
  have first : (Text.decimal 4 year).toList.length = 4 := by omega
  have second : (Text.decimal 2 month).toList.length = 2 := by omega
  refine ⟨?_, ?_, ?_⟩
  · rw [List.append_assoc, List.take_left' first, number_decimal]
  · rw [List.append_assoc, List.drop_left' first, List.take_left' second, number_decimal]
  · rw [List.drop_left' (by rw [List.length_append, first, second]), number_decimal]

/-- The day that eight digits write is the one that is written so. -/
theorem ofDigits?_eq_some_iff :
    ofDigits? digits = some d ↔ digits.length = 8 ∧ d.exists? ∧
      ∃ year month day : Nat, d = ⟨year, month, day⟩ ∧ digits = (compact year month day).toList := by
  unfold ofDigits?
  constructor
  · intro read
    split at read
    · next eight =>
      obtain ⟨length, all⟩ := eight
      obtain ⟨parts, real⟩ := of?_eq_some_iff.mp read
      exact ⟨length, real, _, _, _, parts, (compact_number length (List.all_eq_true.mp all)).symm⟩
    · cases read
  · rintro ⟨length, real, year, month, day, rfl, rfl⟩
    have all : (compact year month day).toList.all Char.isDigit :=
      List.all_eq_true.mpr fun c => isDigit_of_mem_compact
    obtain ⟨years, months, days⟩ := number_parts_compact length
    rw [if_pos ⟨length, all⟩, years, months, days, of?_eq_some_iff]
    exact ⟨rfl, real⟩

end Survey.Date
