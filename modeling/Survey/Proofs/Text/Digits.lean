import Mathlib.Algebra.Group.Nat.Defs
import Mathlib.Data.List.Basic
import Mathlib.Tactic.Common
import Survey.Text.Case
import Survey.Text.Hex
import Survey.Text.Utf8

/-!
Letters, digits and bytes. Only ASCII letters have another case, hexadecimal digits in any case write
the bytes that are written so, a decimal of a fixed width is the only one for its number, and the first
bytes of a text are ASCII where its first characters are.
-/
namespace Survey.Text

variable {c : Char} {cs : List Char}

theorem isDigit_iff : c.isDigit ↔ 48 ≤ c.toNat ∧ c.toNat ≤ 57 := by
  change (decide (48 ≤ c.val) && decide (c.val ≤ 57)) = true ↔ _
  rw [Bool.and_eq_true, decide_eq_true_iff, decide_eq_true_iff, UInt32.le_iff_toNat_le,
    UInt32.le_iff_toNat_le]
  exact Iff.rfl

section Letters

/-- A capital letter in small is 32 places behind, and any other character stays as it is. -/
theorem toLower_cases (c : Char) :
    (65 ≤ c.toNat ∧ c.toNat ≤ 90) ∧ c.toLower.toNat = c.toNat + 32 ∨
      ¬ (65 ≤ c.toNat ∧ c.toNat ≤ 90) ∧ c.toLower = c := by
  delta Char.toLower
  split
  · next capital =>
    have range : 65 ≤ c.toNat ∧ c.toNat ≤ 90 :=
      ⟨UInt32.le_iff_toNat_le.mp capital.1, UInt32.le_iff_toNat_le.mp capital.2⟩
    refine Or.inl ⟨range, ?_⟩
    change (c.val + 32).toNat = c.toNat + 32
    rw [UInt32.toNat_add]
    exact Nat.mod_eq_of_lt (Nat.lt_of_le_of_lt (Nat.add_le_add_right range.2 32) (by decide))
  · next other =>
    refine Or.inr ⟨fun range => other ?_, rfl⟩
    exact ⟨UInt32.le_iff_toNat_le.mpr range.1, UInt32.le_iff_toNat_le.mpr range.2⟩

/-- A small letter as a capital is 32 places before, and any other character stays as it is. -/
theorem toUpper_cases (c : Char) :
    (97 ≤ c.toNat ∧ c.toNat ≤ 122) ∧ c.toUpper.toNat = c.toNat - 32 ∨
      ¬ (97 ≤ c.toNat ∧ c.toNat ≤ 122) ∧ c.toUpper = c := by
  delta Char.toUpper
  split
  · next small =>
    have range : 97 ≤ c.toNat ∧ c.toNat ≤ 122 :=
      ⟨UInt32.le_iff_toNat_le.mp small.1, UInt32.le_iff_toNat_le.mp small.2⟩
    refine Or.inl ⟨range, ?_⟩
    change (c.val + 4294967264).toNat = c.toNat - 32
    rw [UInt32.toNat_add]
    change (c.toNat + 4294967264) % 4294967296 = c.toNat - 32
    omega
  · next other =>
    refine Or.inr ⟨fun range => other ?_, rfl⟩
    exact ⟨UInt32.le_iff_toNat_le.mpr range.1, UInt32.le_iff_toNat_le.mpr range.2⟩

theorem toLower_toLower (c : Char) : c.toLower.toLower = c.toLower := by
  rcases toLower_cases c with ⟨_, small⟩ | ⟨_, same⟩
  · rcases toLower_cases c.toLower with ⟨_, _⟩ | ⟨_, same⟩
    · omega
    · exact same
  · rw [same, same]

theorem toLower_toUpper (c : Char) : c.toUpper.toLower = c.toLower := by
  rcases toUpper_cases c with ⟨_, _⟩ | ⟨_, same⟩
  · rcases toLower_cases c with ⟨_, _⟩ | ⟨_, kept⟩
    · omega
    · rw [kept]
      rcases toLower_cases c.toUpper with ⟨_, _⟩ | ⟨_, _⟩
      · exact Char.toNat_inj.mp (by omega)
      · omega
  · rw [same]

end Letters

section Hexadecimal

variable {bytes : List UInt8}

theorem ascii_of_hexDigit? {v : Nat} (read : hexDigit? c = some v) : c.toNat < 128 := by
  have code : ∀ {d : Char}, c ≤ d → c.toNat ≤ d.toNat := by
    intro d le
    exact UInt32.le_iff_toNat_le.mp (Char.le_def.mp le)
  unfold hexDigit? at read
  split at read
  · next digit =>
    have bounds := isDigit_iff.mp digit
    omega
  · split at read
    · next lower =>
      simp only [Bool.and_eq_true, decide_eq_true_eq] at lower
      exact Nat.lt_of_le_of_lt (code lower.2) (by decide)
    · split at read
      · next upper =>
        simp only [Bool.and_eq_true, decide_eq_true_eq] at upper
        exact Nat.lt_of_le_of_lt (code upper.2) (by decide)
      · cases read

/-- A digit in lower case is the one that writes its value. -/
theorem hexDigit?_eq_some {v : Nat} (read : hexDigit? c = some v) :
    v < 16 ∧ c.toLower = Nat.digitChar v := by
  have all : ∀ n < 128, ∀ v ∈ hexDigit? (Char.ofNat n),
      v < 16 ∧ (Char.ofNat n).toLower = Nat.digitChar v := by
    decide +kernel
  have code := all c.toNat (ascii_of_hexDigit? read) v
  rw [Char.ofNat_toNat] at code
  exact code read

theorem hexDigit?_digitChar {n : Nat} (small : n < 16) : hexDigit? (Nat.digitChar n) = some n := by
  have all : ∀ n < 16, hexDigit? (Nat.digitChar n) = some n := by decide
  exact all n small

theorem hexOfByte_ofNat {high low : Nat} (small : high < 16) (small' : low < 16) :
    hexOfByte (UInt8.ofNat (16 * high + low)) = [Nat.digitChar high, Nat.digitChar low] := by
  have whole : (UInt8.ofNat (16 * high + low)).toNat = 16 * high + low := by
    rw [UInt8.toNat_ofNat', Nat.mod_eq_of_lt (by omega)]
  have left : (16 * high + low) / 16 = high := by omega
  have right : (16 * high + low) % 16 = low := by omega
  rw [hexOfByte, whole, left, right]

theorem unhex?_hex (bytes : List UInt8) : unhex? (hex bytes).toList = some bytes := by
  rw [hex, String.toList_ofList]
  induction bytes with
  | nil => rfl
  | cons b bytes ih =>
      have bound := b.toNat_lt
      have halves : 16 * (b.toNat / 16) + b.toNat % 16 = b.toNat := by omega
      have high := hexDigit?_digitChar (show b.toNat / 16 < 16 by omega)
      have low := hexDigit?_digitChar (show b.toNat % 16 < 16 by omega)
      simp only [List.flatMap_cons, hexOfByte, List.cons_append, List.nil_append, unhex?, high, low,
        ih, Option.bind_eq_bind, Option.bind_some, halves, UInt8.ofNat_toNat]

/-- Digits that write bytes are in lower case the text of these bytes. -/
theorem unhex?_eq_some (read : unhex? cs = some bytes) : (hex bytes).toList = cs.map Char.toLower := by
  rw [hex, String.toList_ofList]
  fun_induction unhex? cs generalizing bytes with
  | case1 =>
      cases read
      rfl
  | case2 => cases read
  | case3 a b rest ih =>
      simp only [Option.bind_eq_bind, Option.bind_eq_some_iff, Option.some.injEq] at read
      obtain ⟨high, first, low, second, more, later, rfl⟩ := read
      obtain ⟨small, upper⟩ := hexDigit?_eq_some first
      obtain ⟨small', lower⟩ := hexDigit?_eq_some second
      rw [List.flatMap_cons, hexOfByte_ofNat small small', ih later, List.map_cons, List.map_cons,
        upper, lower]
      rfl

theorem lowercaseAscii_lowercaseAscii (s : String) :
    lowercaseAscii (lowercaseAscii s) = lowercaseAscii s := by
  rw [lowercaseAscii, lowercaseAscii, String.toList_ofList, List.map_map]
  congr 2
  funext c
  exact toLower_toLower c

/-- A text with its letters in lower case writes bytes exactly when it is their text. -/
theorem unhex?_lowercaseAscii_iff {s : String} :
    unhex? (lowercaseAscii s).toList = some bytes ↔ lowercaseAscii s = hex bytes := by
  constructor
  · intro read
    have folded := unhex?_eq_some read
    have again := congrArg String.toList (lowercaseAscii_lowercaseAscii s)
    rw [lowercaseAscii, String.toList_ofList] at again
    rw [again] at folded
    exact (String.toList_inj.mp folded).symm
  · intro same
    rw [same, unhex?_hex]

theorem length_hex (bytes : List UInt8) : (hex bytes).toList.length = 2 * bytes.length := by
  rw [hex, String.toList_ofList]
  induction bytes with
  | nil => rfl
  | cons b bytes ih =>
      rw [List.flatMap_cons, List.length_append, ih, List.length_cons, hexOfByte]
      simp only [List.length_cons, List.length_nil]
      omega

theorem mem_hex (held : c ∈ (hex bytes).toList) : ∃ n < 16, c = Nat.digitChar n := by
  rw [hex, String.toList_ofList, List.mem_flatMap] at held
  obtain ⟨b, -, written⟩ := held
  have bound := b.toNat_lt
  rcases List.mem_cons.mp written with rfl | last
  · exact ⟨_, by omega, rfl⟩
  · exact ⟨_, by omega, List.mem_singleton.mp last⟩

theorem lowercaseAscii_hex (bytes : List UInt8) : lowercaseAscii (hex bytes) = hex bytes := by
  have all : ∀ n < 16, (Nat.digitChar n).toLower = Nat.digitChar n := by decide
  have kept : ∀ c ∈ (hex bytes).toList, c.toLower = c := by
    intro c held
    obtain ⟨n, small, rfl⟩ := mem_hex held
    exact all n small
  rw [← String.toList_inj, lowercaseAscii, String.toList_ofList]
  exact (List.map_congr_left kept).trans (List.map_id' _)

theorem ascii_of_toLower (ascii : c.toLower.toNat < 128) : c.toNat < 128 := by
  rcases toLower_cases c with ⟨_, _⟩ | ⟨_, same⟩
  · omega
  · rwa [same] at ascii

end Hexadecimal

section Decimal

variable {digits others : List Char}

theorem ofDigitChars_cons_zero (c : Char) (digits : List Char) :
    Nat.ofDigitChars 10 (c :: digits) 0 =
      10 ^ digits.length * (c.toNat - '0'.toNat) + Nat.ofDigitChars 10 digits 0 := by
  rw [Nat.ofDigitChars_cons, Nat.mul_zero, Nat.zero_add, Nat.ofDigitChars_eq_ofDigitChars_zero]

theorem ofDigitChars_lt (all : ∀ c ∈ digits, c.isDigit) :
    Nat.ofDigitChars 10 digits 0 < 10 ^ digits.length := by
  induction digits with
  | nil => exact Nat.one_pos
  | cons c digits ih =>
      have rest := ih fun d held => all d (List.mem_cons_of_mem c held)
      have bounds := isDigit_iff.mp (all c List.mem_cons_self)
      have value : c.toNat - '0'.toNat ≤ 9 := by
        have zero : '0'.toNat = 48 := rfl
        omega
      have scaled := Nat.mul_le_mul_left (10 ^ digits.length) value
      rw [ofDigitChars_cons_zero, List.length_cons, Nat.pow_succ]
      omega

/-- Two decimals of one width that write one number are the same. -/
theorem eq_of_ofDigitChars_eq (all : ∀ c ∈ digits, c.isDigit) (all' : ∀ c ∈ others, c.isDigit)
    (width : digits.length = others.length)
    (same : Nat.ofDigitChars 10 digits 0 = Nat.ofDigitChars 10 others 0) : digits = others := by
  induction digits generalizing others with
  | nil => exact (List.length_eq_zero_iff.mp width.symm).symm
  | cons c digits ih =>
      obtain ⟨d, others, rfl⟩ := List.exists_cons_of_length_eq_add_one width.symm
      have rest : ∀ e ∈ digits, e.isDigit := fun e held => all e (List.mem_cons_of_mem c held)
      have rest' : ∀ e ∈ others, e.isDigit := fun e held => all' e (List.mem_cons_of_mem d held)
      have below := ofDigitChars_lt rest
      have below' := ofDigitChars_lt rest'
      rw [ofDigitChars_cons_zero, ofDigitChars_cons_zero] at same
      have width : digits.length = others.length := Nat.succ.inj width
      rw [width] at same below
      have place : 0 < 10 ^ others.length := Nat.pow_pos (by decide)
      have first : c.toNat - '0'.toNat = d.toNat - '0'.toNat := by
        have quotient := congrArg (· / 10 ^ others.length) same
        simpa only [Nat.mul_add_div place, Nat.div_eq_of_lt below, Nat.div_eq_of_lt below',
          Nat.add_zero] using quotient
      have later : Nat.ofDigitChars 10 digits 0 = Nat.ofDigitChars 10 others 0 := by
        rw [first] at same
        exact Nat.add_left_cancel same
      have bounds := isDigit_iff.mp (all c List.mem_cons_self)
      have bounds' := isDigit_iff.mp (all' d List.mem_cons_self)
      have zero : '0'.toNat = 48 := rfl
      have chars : c = d := Char.toNat_inj.mp (by omega)
      rw [chars, ih rest rest' width later]

theorem isDigit_of_mem_decimal {width n : Nat} (held : c ∈ (decimal width n).toList) : c.isDigit := by
  rw [decimal, String.toList_ofList, List.mem_append] at held
  rcases held with zero | digit
  · rw [List.eq_of_mem_replicate zero]
    rfl
  · exact Nat.isDigit_of_mem_toDigits (by decide) (by decide) digit

theorem ofDigitChars_decimal (width n : Nat) :
    Nat.ofDigitChars 10 (decimal width n).toList 0 = n := by
  rw [decimal, String.toList_ofList, Nat.ofDigitChars_append, Nat.ofDigitChars_replicate_zero,
    Nat.mul_zero, Nat.ofDigitChars_ten_toDigits]

theorem width_le_length_decimal (width n : Nat) : width ≤ (decimal width n).toList.length := by
  rw [decimal, String.toList_ofList, List.length_append, List.length_replicate]
  omega

theorem length_decimal {width n : Nat} (positive : 0 < width) (below : n < 10 ^ width) :
    (decimal width n).toList.length = width := by
  have digits := (Nat.length_toDigits_le_iff (by decide) positive).mpr below
  rw [decimal, String.toList_ofList, List.length_append, List.length_replicate]
  omega

theorem decimal_ofDigitChars (nonempty : digits ≠ []) (all : ∀ c ∈ digits, c.isDigit) :
    (decimal digits.length (Nat.ofDigitChars 10 digits 0)).toList = digits := by
  apply eq_of_ofDigitChars_eq (fun c => isDigit_of_mem_decimal) all
  · exact length_decimal (List.length_pos_iff.mpr nonempty) (ofDigitChars_lt all)
  · exact ofDigitChars_decimal _ _

end Decimal

section Bytes

theorem encode_eq (s : String) : Utf8.encode s = s.toList.flatMap String.utf8EncodeChar := by
  rw [Utf8.encode, String.toUTF8_eq_toByteArray, ← String.utf8Encode_toList, List.utf8Encode]
  simp

theorem encode_injective {s t : String} (same : Utf8.encode s = Utf8.encode t) : s = t := by
  have arrays : s.toUTF8 = t.toUTF8 := ByteArray.ext (Array.toList_inj.mp same)
  rwa [String.toUTF8_eq_toByteArray, String.toUTF8_eq_toByteArray, String.toByteArray_inj] at arrays

theorem utf8EncodeChar_ascii (ascii : c.toNat < 128) :
    String.utf8EncodeChar c = [UInt8.ofNat c.toNat] := by
  have one : c.utf8Size = 1 := by
    rw [Char.utf8Size_eq_one_iff, UInt32.le_iff_toNat_le]
    exact Nat.le_of_lt_succ ascii
  rw [String.utf8EncodeChar_eq_singleton one]
  rfl

/-- Outside ASCII a character begins with a byte outside ASCII. -/
theorem exists_utf8EncodeChar (other : 128 ≤ c.toNat) :
    ∃ b rest, String.utf8EncodeChar c = b :: rest ∧ 128 ≤ b.toNat := by
  have marked : ∀ b mark : UInt8, 128 ≤ mark.toNat → 128 ≤ (b ||| mark).toNat := by
    intro b mark high
    rw [UInt8.toNat_or]
    exact Nat.le_trans high Nat.right_le_or
  rcases c.utf8Size_eq with one | two | three | four
  · have ascii := UInt32.le_iff_toNat_le.mp (Char.utf8Size_eq_one_iff.mp one)
    exact absurd (Nat.lt_succ_of_le ascii) (Nat.not_lt.mpr other)
  · exact ⟨_, _, String.utf8EncodeChar_eq_cons_cons two, marked _ _ (by decide)⟩
  · exact ⟨_, _, String.utf8EncodeChar_eq_cons_cons_cons three, marked _ _ (by decide)⟩
  · exact ⟨_, _, String.utf8EncodeChar_eq_cons_cons_cons_cons four, marked _ _ (by decide)⟩

theorem flatMap_utf8EncodeChar (ascii : ∀ c ∈ cs, c.toNat < 128) :
    cs.flatMap String.utf8EncodeChar = cs.map fun c => UInt8.ofNat c.toNat := by
  induction cs with
  | nil => rfl
  | cons c cs ih =>
      rw [List.flatMap_cons, utf8EncodeChar_ascii (ascii c List.mem_cons_self),
        ih fun d held => ascii d (List.mem_cons_of_mem c held)]
      rfl

theorem encode_of_ascii {s : String} (ascii : ∀ c ∈ s.toList, c.toNat < 128) :
    Utf8.encode s = s.toList.map fun c => UInt8.ofNat c.toNat := by
  rw [encode_eq, flatMap_utf8EncodeChar ascii]

theorem length_encode_of_lowercaseAscii {s : String} {bytes : List UInt8}
    (written : lowercaseAscii s = hex bytes) : (Utf8.encode s).length = 2 * bytes.length := by
  have chars : s.toList.map Char.toLower = (hex bytes).toList := by
    rw [← written, lowercaseAscii, String.toList_ofList]
  have ascii : ∀ c ∈ s.toList, c.toNat < 128 := by
    intro c held
    have folded : c.toLower ∈ (hex bytes).toList := by
      rw [← chars]
      exact List.mem_map_of_mem held
    obtain ⟨n, small, digit⟩ := mem_hex folded
    apply ascii_of_toLower
    rw [digit]
    exact ascii_of_hexDigit? (hexDigit?_digitChar small)
  rw [encode_of_ascii ascii, List.length_map, ← length_hex, ← chars, List.length_map]

theorem toNat_ofNat_ascii (ascii : c.toNat < 128) : (UInt8.ofNat c.toNat).toNat = c.toNat := by
  rw [UInt8.toNat_ofNat', Nat.mod_eq_of_lt (by omega)]

def IsDigitByte (b : UInt8) : Prop :=
  48 ≤ b.toNat ∧ b.toNat ≤ 57

/-- A text begins with so many bytes of digits exactly when it begins with so many digits. -/
theorem digits_of_take_bytes (n : Nat) (cs : List Char) :
    (n ≤ (cs.flatMap String.utf8EncodeChar).length ∧
        ∀ b ∈ (cs.flatMap String.utf8EncodeChar).take n, IsDigitByte b) ↔
      n ≤ cs.length ∧ ∀ c ∈ cs.take n, c.isDigit := by
  induction n generalizing cs with
  | zero => simp
  | succ n ih =>
      cases cs with
      | nil => simp
      | cons c cs =>
          rcases Nat.lt_or_ge c.toNat 128 with ascii | other
          · have digit : IsDigitByte (UInt8.ofNat c.toNat) ↔ c.isDigit := by
              rw [IsDigitByte, toNat_ofNat_ascii ascii, isDigit_iff]
            simp only [List.flatMap_cons, utf8EncodeChar_ascii ascii, List.cons_append,
              List.nil_append, List.length_cons, Nat.add_le_add_iff_right, List.take_succ_cons,
              List.forall_mem_cons, digit]
            rw [and_left_comm, ih cs, and_left_comm]
          · obtain ⟨b, rest, bytes, high⟩ := exists_utf8EncodeChar other
            have strange : ¬ IsDigitByte b := fun digit => by have := digit.2; omega
            have strange' : ¬ c.isDigit := fun digit => by have := isDigit_iff.mp digit; omega
            simp only [List.flatMap_cons, bytes, List.cons_append, List.take_succ_cons,
              List.forall_mem_cons, strange, strange', Bool.false_eq_true, false_and, and_false]

theorem take_encode {s : String} {n : Nat} (enough : n ≤ s.toList.length)
    (ascii : ∀ c ∈ s.toList.take n, c.toNat < 128) :
    (Utf8.encode s).take n = Utf8.encode (String.ofList (s.toList.take n)) := by
  rw [encode_eq, encode_eq, String.toList_ofList]
  conv_lhs => rw [← List.take_append_drop n s.toList, List.flatMap_append]
  apply List.take_left'
  rw [flatMap_utf8EncodeChar ascii, List.length_map, List.length_take, Nat.min_eq_left enough]

end Bytes

end Survey.Text
