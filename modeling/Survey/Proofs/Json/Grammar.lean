import Survey.Json.Read
import Survey.Proofs.Text.Quotes
import Survey.Proofs.Text.Scan

/-!
The grammar of JSON text, as a relation between what is read, the text it is read from and the text
left after it. The reader finds what the grammar allows and nothing else: its fuel never runs out.
-/
namespace Survey.Json

open Survey.Text (Quoting hexDigit? takeWhile_run dropWhile_run)

section Escapes

variable {cs mid e : List Char} {u : CodeUnit} {n : Nat}

theorem exists_of_hex4? (read : hex4? cs = some (n, mid)) :
    ∃ h, cs = h ++ mid ∧ (∀ d ∈ h, d ∉ [',', '"', '\\']) ∧
      ∀ rest, hex4? (h ++ rest) = some (n, rest) := by
  have plain : ∀ {d v}, hexDigit? d = some v → d ∉ [',', '"', '\\'] := by
    intro d v digit special
    have none : ∀ d ∈ [',', '"', '\\'], hexDigit? d = none := by decide
    rw [none d special] at digit
    cases digit
  unfold hex4? at read
  split at read
  · next a b c d cs =>
    simp only [Option.bind_eq_bind, Option.bind_eq_some_iff] at read
    obtain ⟨a', first, b', second, c', third, d', fourth, whole⟩ := read
    obtain ⟨rfl, rfl⟩ := Prod.mk.inj (Option.some.inj whole)
    refine ⟨[a, b, c, d], rfl, ?_, fun rest => ?_⟩
    · intro x member
      simp only [List.mem_cons, List.not_mem_nil, or_false] at member
      rcases member with rfl | rfl | rfl | rfl
      · exact plain first
      · exact plain second
      · exact plain third
      · exact plain fourth
    · simp [hex4?, first, second, third, fourth]
  · cases read

/-- The text of an escape after its backslash. -/
structure Escape (u : CodeUnit) (e : List Char) : Prop where
  reads : ∀ rest, escape? (e ++ rest) = some (u, rest)
  ends : Quoting.escaped.run e = .inside
  unclosed : '"' ∉ e.tail
  plain : ',' ∉ e

theorem Escape.ne_nil (h : Escape u e) : e ≠ [] := by
  rintro rfl
  cases h.reads []

theorem escape_of_code {h : List Char} (plain : ∀ d ∈ h, d ∉ [',', '"', '\\'])
    (reads : ∀ rest, hex4? (h ++ rest) = some (n, rest)) : Escape (.ofCode n) ('u' :: h) where
  reads rest := by simp [escape?, reads]
  ends := Quoting.run_inside_of_free (fun member => plain _ member (by decide))
    (fun member => plain _ member (by decide))
  unclosed member := plain _ member (by decide)
  plain := by simpa using fun member => plain _ member (by decide)

theorem exists_of_escape? (read : escape? cs = some (u, mid)) :
    ∃ e, cs = e ++ mid ∧ Escape u e := by
  have single : ∀ {d : Char} {rest : List Char}, (∀ rest, escape? (d :: rest) = some (u, rest)) →
      d ≠ ',' → ∃ e, d :: rest = e ++ rest ∧ Escape u e := by
    intro d rest reads plain
    exact ⟨[d], rfl, reads, rfl, List.not_mem_nil, by simpa using plain.symm⟩
  unfold escape? at read
  split at read
  case h_9 cs =>
    obtain ⟨⟨n, rest⟩, found, whole⟩ := Option.map_eq_some_iff.mp read
    obtain ⟨rfl, rfl⟩ := Prod.mk.inj whole
    obtain ⟨h, rfl, plain, again⟩ := exists_of_hex4? found
    exact ⟨'u' :: h, rfl, escape_of_code plain again⟩
  case h_10 => cases read
  all_goals
    obtain ⟨rfl, rfl⟩ := Prod.mk.inj (Option.some.inj read)
    exact single (fun _ => rfl) (by decide)

end Escapes

section Numbers

variable {cs part rest rest' : List Char} {read first second : PartReader} {marks : List Char}

/-- A character that may stand in a number. -/
def isNumeric (c : Char) : Bool :=
  c.isDigit || ['-', '+', '.', 'e', 'E'].contains c

/-- A reader takes characters of numbers, and of what comes next it sees one character at most. -/
def Peeks (read : PartReader) : Prop :=
  ∀ ⦃cs part rest⦄, read cs = some (part, rest) →
    cs = part ++ rest ∧ (∀ c ∈ part, isNumeric c) ∧
      ∀ ⦃rest'⦄, rest'.head? = rest.head? → read (part ++ rest') = some (part, rest')

theorem head?_append_congr (same : rest'.head? = rest.head?) :
    (part ++ rest').head? = (part ++ rest).head? := by
  cases part with
  | nil => exact same
  | cons c part => rfl

theorem andThen_eq_some_iff :
    andThen first second cs = some (part, rest) ↔
      ∃ a mid b, first cs = some (a, mid) ∧ second mid = some (b, rest) ∧ part = a ++ b := by
  simp only [andThen, Option.bind_eq_bind, Option.bind_eq_some_iff, Prod.exists, Option.some.injEq,
    Prod.mk.injEq]
  constructor
  · rintro ⟨a, mid, former, b, after, latter, rfl, rfl⟩
    exact ⟨a, mid, b, former, latter, rfl⟩
  · rintro ⟨a, mid, b, former, latter, rfl⟩
    exact ⟨a, mid, former, b, rest, latter, rfl, rfl⟩

theorem Peeks.andThen (h : Peeks first) (h' : Peeks second) : Peeks (andThen first second) := by
  intro cs part rest taken
  obtain ⟨a, mid, b, former, latter, rfl⟩ := andThen_eq_some_iff.mp taken
  obtain ⟨rfl, numeric, again⟩ := h former
  obtain ⟨rfl, numeric', again'⟩ := h' latter
  refine ⟨by simp, ?_, fun rest' same => ?_⟩
  · intro c member
    exact (List.mem_append.mp member).elim (numeric c) (numeric' c)
  · apply andThen_eq_some_iff.mpr
    rw [List.append_assoc]
    exact ⟨a, b ++ rest', b, again (head?_append_congr same), again' same, rfl⟩

theorem Peeks.marked? (h : Peeks read) (numeric : ∀ c ∈ marks, isNumeric c) :
    Peeks (marked? marks read) := by
  intro cs part rest taken
  cases cs with
  | nil =>
      obtain ⟨rfl, rfl⟩ := Prod.mk.inj (Option.some.inj taken)
      refine ⟨rfl, by simp, fun rest' same => ?_⟩
      cases rest' with
      | nil => rfl
      | cons d rest' => cases same
  | cons c cs =>
      rw [Json.marked?] at taken
      by_cases mark : marks.contains c
      · rw [if_pos mark] at taken
        obtain ⟨⟨a, after⟩, inner, whole⟩ := Option.map_eq_some_iff.mp taken
        obtain ⟨rfl, rfl⟩ := Prod.mk.inj whole
        obtain ⟨rfl, numeric', again⟩ := h inner
        refine ⟨rfl, ?_, fun rest' same => ?_⟩
        · intro d member
          rcases List.mem_cons.mp member with rfl | later
          · exact numeric d (List.contains_iff_mem.mp mark)
          · exact numeric' d later
        · rw [List.cons_append, Json.marked?, if_pos mark, again same]
          rfl
      · rw [if_neg mark] at taken
        obtain ⟨rfl, rfl⟩ := Prod.mk.inj (Option.some.inj taken)
        refine ⟨rfl, by simp, fun rest' same => ?_⟩
        cases rest' with
        | nil => cases same
        | cons d rest' =>
            obtain rfl : d = c := by simpa using same
            rw [List.nil_append, Json.marked?, if_neg mark]

theorem peeks_sign? (numeric : ∀ c ∈ marks, isNumeric c) : Peeks (sign? marks) := by
  apply Peeks.marked? _ numeric
  intro cs part rest taken
  obtain ⟨rfl, rfl⟩ := Prod.mk.inj (Option.some.inj taken)
  exact ⟨rfl, by simp, fun _ _ => rfl⟩

theorem peeks_digits? : Peeks digits? := by
  intro cs part rest taken
  unfold digits? at taken
  split at taken
  · cases taken
  · next some =>
    obtain ⟨rfl, rfl⟩ := Prod.mk.inj (Option.some.inj taken)
    have digits : ∀ c ∈ cs.takeWhile Char.isDigit, c.isDigit := fun _ => List.mem_takeWhile_imp
    refine ⟨List.takeWhile_append_dropWhile.symm, ?_, fun rest' same => ?_⟩
    · intro c member
      rw [isNumeric, digits c member]
      rfl
    · have stops : ∀ c ∈ rest'.head?, c.isDigit = false := by
        intro c next
        have left := List.head?_dropWhile_not Char.isDigit cs
        rw [← same, next] at left
        simpa using left
      rw [digits?, takeWhile_run digits stops, dropWhile_run digits stops, if_neg some]

theorem whole?_eq_some_iff :
    whole? cs = some (part, rest) ↔
      digits? cs = some (part, rest) ∧ ¬ (part.head? == some '0' && 1 < part.length) := by
  simp only [whole?, Option.bind_eq_bind, Option.bind_eq_some_iff, Prod.exists,
    Option.ite_none_left_eq_some, Option.some.injEq, Prod.mk.injEq]
  constructor
  · rintro ⟨digits, after, found, plain, rfl, rfl⟩
    exact ⟨found, plain⟩
  · rintro ⟨found, plain⟩
    exact ⟨part, rest, found, plain, rfl, rfl⟩

theorem peeks_whole? : Peeks whole? := by
  intro cs part rest taken
  obtain ⟨found, plain⟩ := whole?_eq_some_iff.mp taken
  obtain ⟨text, numeric, again⟩ := peeks_digits? found
  exact ⟨text, numeric, fun rest' same => whole?_eq_some_iff.mpr ⟨again same, plain⟩⟩

theorem ne_nil_of_digits? (taken : digits? cs = some (part, rest)) : part ≠ [] := by
  unfold digits? at taken
  split at taken
  · cases taken
  · next some =>
    obtain ⟨rfl, -⟩ := Prod.mk.inj (Option.some.inj taken)
    simpa using some

theorem peeks_number :
    Peeks (andThen (sign? ['-']) (andThen whole? (andThen fraction? exponent?))) := by
  have fraction : Peeks fraction? := Peeks.marked? peeks_digits? (by decide)
  have exponent : Peeks exponent? :=
    Peeks.marked? ((peeks_sign? (by decide)).andThen peeks_digits?) (by decide)
  exact (peeks_sign? (by decide)).andThen (peeks_whole?.andThen (fraction.andThen exponent))

/-- The text of a number is read wherever the next character is the same. -/
theorem exists_of_number? {digits : String} (taken : number? cs = some (digits, rest)) :
    cs = digits.toList ++ rest ∧ (∀ c ∈ digits.toList, isNumeric c) ∧
      ∀ ⦃rest'⦄, rest'.head? = rest.head? →
        number? (digits.toList ++ rest') = some (digits, rest') := by
  obtain ⟨⟨part, after⟩, inner, whole⟩ := Option.map_eq_some_iff.mp taken
  obtain ⟨rfl, rfl⟩ := Prod.mk.inj whole
  obtain ⟨text, numeric, again⟩ := peeks_number inner
  rw [String.toList_ofList]
  refine ⟨text, numeric, fun rest' same => ?_⟩
  rw [number?, again same]
  rfl

theorem ne_nil_of_number? {digits : String} (taken : number? cs = some (digits, rest)) :
    digits.toList ≠ [] := by
  obtain ⟨⟨part, after⟩, inner, whole⟩ := Option.map_eq_some_iff.mp taken
  obtain ⟨rfl, rfl⟩ := Prod.mk.inj whole
  obtain ⟨sign, mid, unsigned, -, body, rfl⟩ := andThen_eq_some_iff.mp inner
  obtain ⟨front, back, more, leading, -, rfl⟩ := andThen_eq_some_iff.mp body
  have some := ne_nil_of_digits? (whole?_eq_some_iff.mp leading).1
  simp [some]

end Numbers

section Literals

variable {s : Spelling} {cs rest : List Char}

/-- The units of a string after its opening quotation mark, and the text after the closing one. -/
inductive Literal : Spelling → List Char → List Char → Prop
  | close (rest : List Char) : Literal [] ('"' :: rest) rest
  | escape {u : CodeUnit} {s : Spelling} {e cs rest : List Char} : Escape u e → Literal s cs rest →
      Literal (u :: s) ('\\' :: (e ++ cs)) rest
  | char {c : Char} {s : Spelling} {cs rest : List Char} : c ≠ '"' → c ≠ '\\' → ¬ c.toNat < 0x20 →
      Literal s cs rest → Literal (.char c :: s) (c :: cs) rest

theorem literal_of_stringRest {n : Nat} (read : stringRest n cs = some (s, rest)) :
    Literal s cs rest := by
  fun_induction stringRest n cs generalizing s rest with
  | case1 => cases read
  | case2 => cases read
  | case3 n rest =>
      obtain ⟨rfl, rfl⟩ := Prod.mk.inj (Option.some.inj read)
      exact .close rest
  | case4 n cs ih =>
      simp only [Option.bind_eq_bind, Option.bind_eq_some_iff, Prod.exists] at read
      obtain ⟨u, mid, escaped, more, after, inner, whole⟩ := read
      obtain ⟨rfl, rfl⟩ := Prod.mk.inj (Option.some.inj whole)
      obtain ⟨e, rfl, escape⟩ := exists_of_escape? escaped
      exact .escape escape (ih mid inner)
  | case5 n c cs _ _ control => cases read
  | case6 n c cs unquoted plain control ih =>
      obtain ⟨⟨more, after⟩, inner, whole⟩ := Option.map_eq_some_iff.mp read
      obtain ⟨rfl, rfl⟩ := Prod.mk.inj whole
      exact .char unquoted plain control (ih inner)

theorem Literal.length_lt (h : Literal s cs rest) : rest.length < cs.length := by
  induction h with
  | close rest => simp
  | escape _ _ ih =>
      simp only [List.length_cons, List.length_append]
      omega
  | char _ _ _ _ ih => exact Nat.lt_succ_of_lt ih

theorem stringRest_of_literal (h : Literal s cs rest) :
    ∀ n, cs.length ≤ n + rest.length → stringRest n cs = some (s, rest) := by
  induction h with
  | close rest =>
      intro n fuel
      cases n with
      | zero => exact absurd fuel (by simp)
      | succ n => rfl
  | escape escape h ih =>
      intro n fuel
      simp only [List.length_cons, List.length_append] at fuel
      cases n with
      | zero =>
          have shorter := h.length_lt
          omega
      | succ n =>
          simp only [stringRest, escape.reads, Option.bind_eq_bind, Option.bind_some,
            ih n (by omega)]
  | char unquoted plain control h ih =>
      intro n fuel
      simp only [List.length_cons] at fuel
      cases n with
      | zero =>
          have shorter := h.length_lt
          omega
      | succ n =>
          rw [stringRest, if_neg control, ih n (by omega)]
          · rfl
          · exact unquoted
          · exact plain

end Literals

section Tokens

variable {cs rest : List Char} {c : Char} {j : Json}

/-- What a text is made of: marks between values, and values without parts. -/
inductive Token where
  | mark (c : Char)
  | atom (j : Json)

def marks : List Char :=
  ['[', ']', '\x7b', '\x7d', ',', ':']

def words : List (List Char × Json) :=
  [("null".toList, .null), ("true".toList, .bool true), ("false".toList, .bool false)]

/-- A text begins with a token, after white space. -/
inductive Lexes : Token → List Char → List Char → Prop
  | mark {c : Char} {cs rest : List Char} : c ∈ marks → skipSpace cs = c :: rest →
      Lexes (.mark c) cs rest
  | word {w cs rest : List Char} {j : Json} : (w, j) ∈ words → skipSpace cs = w ++ rest →
      Lexes (.atom j) cs rest
  | string {s : Spelling} {body cs rest : List Char} : skipSpace cs = '"' :: body →
      Literal s body rest → Lexes (.atom (.string s)) cs rest
  | number {digits : String} {cs rest : List Char} : number? (skipSpace cs) = some (digits, rest) →
      Lexes (.atom (.number digits)) cs rest

theorem exists_skipSpace (cs : List Char) :
    ∃ spaces, (∀ c ∈ spaces, isSpace c) ∧ cs = spaces ++ skipSpace cs :=
  ⟨cs.takeWhile isSpace, fun _ => List.mem_takeWhile_imp, List.takeWhile_append_dropWhile.symm⟩

theorem length_skipSpace_le (cs : List Char) : (skipSpace cs).length ≤ cs.length :=
  (List.dropWhile_suffix isSpace).length_le

/-- A text that goes on with something other than the end of an array or object. -/
def Starts (cs : List Char) : Prop :=
  ∃ c rest, skipSpace cs = c :: rest ∧ Text.isBlank c = false ∧ c ∉ [']', '\x7d']

theorem isBlank_of_isNumeric (numeric : isNumeric c) : Text.isBlank c = false := by
  by_contra blank
  have apart : ∀ n ∈ Text.blankCodes, isNumeric (Char.ofNat n) = false := by decide
  have code := apart c.toNat (Text.mem_blankCodes (Bool.not_eq_false _ ▸ blank))
  rw [Char.ofNat_toNat, numeric] at code
  cases code

theorem exists_numeric {digits : String} (taken : number? cs = some (digits, rest)) :
    ∃ c more, cs = c :: more ∧ isNumeric c := by
  obtain ⟨text, numeric, -⟩ := exists_of_number? taken
  obtain ⟨c, more, split⟩ := List.exists_cons_of_ne_nil (ne_nil_of_number? taken)
  exact ⟨c, more ++ rest, by rw [text, split, List.cons_append], numeric c (by simp [split])⟩

theorem Lexes.starts (h : Lexes (.atom j) cs rest) : Starts cs := by
  cases h with
  | word listed lexed =>
      simp only [words, List.mem_cons, Prod.mk.injEq, List.not_mem_nil, or_false] at listed
      rcases listed with ⟨rfl, -⟩ | ⟨rfl, -⟩ | ⟨rfl, -⟩
      · exact ⟨_, _, lexed, by decide, by decide⟩
      · exact ⟨_, _, lexed, by decide, by decide⟩
      · exact ⟨_, _, lexed, by decide, by decide⟩
  | string lexed _ => exact ⟨_, _, lexed, by decide, by decide⟩
  | number taken =>
      obtain ⟨c, more, lexed, numeric⟩ := exists_numeric taken
      refine ⟨c, more, lexed, isBlank_of_isNumeric numeric, fun closing => ?_⟩
      have other : ∀ c ∈ [']', '\x7d'], isNumeric c = false := by decide
      rw [other c closing] at numeric
      cases numeric

theorem Lexes.skipSpace_eq (h : Lexes (.mark c) cs rest) : skipSpace cs = c :: rest := by
  cases h with
  | mark _ lexed => exact lexed

theorem Lexes.exists_literal {name : Spelling} (h : Lexes (.atom (.string name)) cs rest) :
    ∃ body, skipSpace cs = '"' :: body ∧ Literal name body rest := by
  cases h with
  | word listed _ => simp [words] at listed
  | string lexed literal => exact ⟨_, lexed, literal⟩

theorem value?_of_atom (h : Lexes (.atom j) cs rest) {n : Nat}
    (fuel : cs.length ≤ n + 1 + rest.length) : value? (n + 1) cs = some (j, rest) := by
  cases h with
  | word listed lexed =>
      simp only [words, List.mem_cons, Prod.mk.injEq, List.not_mem_nil, or_false] at listed
      rcases listed with ⟨rfl, rfl⟩ | ⟨rfl, rfl⟩ | ⟨rfl, rfl⟩
      · rw [value?, lexed]; rfl
      · rw [value?, lexed]; rfl
      · rw [value?, lexed]; rfl
  | string lexed literal =>
      have shorter := length_skipSpace_le cs
      rw [lexed, List.length_cons] at shorter
      rw [value?, lexed]
      simp only [stringRest_of_literal literal n (by omega), Option.map_some]
  | number taken =>
      obtain ⟨c, more, lexed, numeric⟩ := exists_numeric taken
      have other : ∀ {d : Char} {after : List Char}, skipSpace cs = d :: after → isNumeric d := by
        intro d after same
        rw [lexed] at same
        exact (List.cons.inj same).1 ▸ numeric
      rw [value?]
      split
      case h_7 => rw [taken]; rfl
      all_goals
        next same => exact absurd (other same) (by decide)

end Tokens

section Values

/-- What is read from a text: a value, or what stands between the brackets of one. -/
inductive Part where
  | value (j : Json)
  | items (js : List Json)
  | members (ms : List (Spelling × Json))

/-- A text begins with a part. Items and members are read up to and with the closing bracket. -/
inductive Reads : Part → List Char → List Char → Prop
  | atom {j : Json} {cs rest : List Char} : Lexes (.atom j) cs rest → Reads (.value j) cs rest
  | emptyArray {cs inner rest : List Char} : Lexes (.mark '[') cs inner →
      Lexes (.mark ']') inner rest → Reads (.value (.array [])) cs rest
  | array {js : List Json} {cs inner rest : List Char} : Lexes (.mark '[') cs inner →
      Reads (.items js) inner rest → Reads (.value (.array js)) cs rest
  | emptyObject {cs inner rest : List Char} : Lexes (.mark '\x7b') cs inner →
      Lexes (.mark '\x7d') inner rest → Reads (.value (.object [])) cs rest
  | object {ms : List (Spelling × Json)} {cs inner rest : List Char} : Lexes (.mark '\x7b') cs inner →
      Reads (.members ms) inner rest → Reads (.value (.object ms)) cs rest
  | lastItem {j : Json} {cs after rest : List Char} : Reads (.value j) cs after →
      Lexes (.mark ']') after rest → Reads (.items [j]) cs rest
  | item {j : Json} {js : List Json} {cs after more rest : List Char} : Reads (.value j) cs after →
      Lexes (.mark ',') after more → Reads (.items js) more rest → Reads (.items (j :: js)) cs rest
  | lastMember {name : Spelling} {j : Json} {cs colon value after rest : List Char} :
      Lexes (.atom (.string name)) cs colon → Lexes (.mark ':') colon value →
      Reads (.value j) value after → Lexes (.mark '\x7d') after rest →
      Reads (.members [(name, j)]) cs rest
  | member {name : Spelling} {j : Json} {ms : List (Spelling × Json)}
      {cs colon value after more rest : List Char} :
      Lexes (.atom (.string name)) cs colon → Lexes (.mark ':') colon value →
      Reads (.value j) value after → Lexes (.mark ',') after more → Reads (.members ms) more rest →
      Reads (.members ((name, j) :: ms)) cs rest

variable {cs rest : List Char} {p : Part} {j : Json} {n : Nat}

theorem Reads.starts (h : Reads p cs rest) : Starts cs := by
  have opening : ∀ {c : Char} {cs rest : List Char}, c ∈ ['[', '\x7b'] → Lexes (.mark c) cs rest →
      Starts cs := by
    intro c cs rest bracket lexes
    cases lexes with
    | mark _ lexed =>
        have solid : ∀ c ∈ ['[', '\x7b'], Text.isBlank c = false ∧ c ∉ [']', '\x7d'] := by decide
        exact ⟨c, rest, lexed, solid c bracket⟩
  induction h with
  | atom lexes => exact lexes.starts
  | emptyArray lexes _ => exact opening (by decide) lexes
  | array lexes _ _ => exact opening (by decide) lexes
  | emptyObject lexes _ => exact opening (by decide) lexes
  | object lexes _ _ => exact opening (by decide) lexes
  | lastItem _ _ ih => exact ih
  | item _ _ _ ih _ => exact ih
  | lastMember lexes _ _ _ _ => exact lexes.starts
  | member lexes _ _ _ _ _ _ => exact lexes.starts

/-- What holds from the start of each token to its end, and over tokens in a row, holds of every
part. After a comma something more is read. -/
theorem Reads.spans (span : List Char → List Char → Prop)
    (trans : ∀ {a b c}, span a b → span b c → span a c)
    (token : ∀ {t a b}, t ≠ .mark ',' → Lexes t a b → span a b)
    (comma : ∀ {a b}, Lexes (.mark ',') a b → Starts b → span a b) (h : Reads p cs rest) :
    span cs rest := by
  induction h with
  | atom lexes => exact token (by simp) lexes
  | emptyArray opens closes => exact trans (token (by simp) opens) (token (by simp) closes)
  | array opens _ ih => exact trans (token (by simp) opens) ih
  | emptyObject opens closes => exact trans (token (by simp) opens) (token (by simp) closes)
  | object opens _ ih => exact trans (token (by simp) opens) ih
  | lastItem _ closes ih => exact trans ih (token (by simp) closes)
  | item _ parts more ih ih' => exact trans ih (trans (comma parts more.starts) ih')
  | lastMember name colon _ closes ih =>
      exact trans (trans (token (by simp) name) (token (by simp) colon))
        (trans ih (token (by simp) closes))
  | member name colon _ parts more ih ih' =>
      exact trans (trans (token (by simp) name) (token (by simp) colon))
        (trans ih (trans (comma parts more.starts) ih'))

theorem Lexes.length_lt {t : Token} (h : Lexes t cs rest) : rest.length < cs.length := by
  apply Nat.lt_of_lt_of_le _ (length_skipSpace_le cs)
  cases h with
  | mark _ lexed => simp [lexed]
  | word listed lexed =>
      have some : ∀ entry ∈ words, entry.1 ≠ [] := by simp [words]
      simpa [lexed, List.length_pos_iff] using some _ listed
  | string lexed literal =>
      rw [lexed]
      exact Nat.lt_succ_of_lt literal.length_lt
  | number taken =>
      rw [(exists_of_number? taken).1, List.length_append]
      have some := List.length_pos_iff.mpr (ne_nil_of_number? taken)
      omega

theorem Reads.length_lt (h : Reads p cs rest) : rest.length < cs.length := by
  apply h.spans fun cs rest => rest.length < cs.length
  · exact fun first second => second.trans first
  · exact fun _ lexes => lexes.length_lt
  · exact fun lexes _ => lexes.length_lt

/-- The reader finds a part when it has some fuel. -/
def Part.Found (n : Nat) (cs rest : List Char) : Part → Prop
  | .value j => value? n cs = some (j, rest)
  | .items js => items? n cs = some (js, rest)
  | .members ms => members? n cs = some (ms, rest)

/-- The fuel that a part takes beyond twice the length of its text. -/
def Part.extra : Part → Nat
  | .value _ => 0
  | .items _ => 1
  | .members _ => 1

theorem value?_of_items {js : List Json} {inner : List Char} (opens : Lexes (.mark '[') cs inner)
    (starts : Starts inner) (found : items? n inner = some (js, rest)) :
    value? (n + 1) cs = some (.array js, rest) := by
  obtain ⟨c, more, lexed, -, within⟩ := starts
  simp only [value?, opens.skipSpace_eq]
  split
  · next same =>
    rw [lexed] at same
    exact absurd ((List.cons.inj same).1 ▸ List.mem_cons_self) within
  · rw [found]
    rfl

theorem value?_of_members {ms : List (Spelling × Json)} {inner : List Char}
    (opens : Lexes (.mark '\x7b') cs inner) (starts : Starts inner)
    (found : members? n inner = some (ms, rest)) : value? (n + 1) cs = some (.object ms, rest) := by
  obtain ⟨c, more, lexed, -, within⟩ := starts
  simp only [value?, opens.skipSpace_eq]
  split
  · next same =>
    rw [lexed] at same
    exact absurd ((List.cons.inj same).1 ▸ List.mem_cons_of_mem _ List.mem_cons_self) within
  · rw [found]
    rfl

theorem items?_of_last {after : List Char} (found : value? n cs = some (j, after))
    (closes : Lexes (.mark ']') after rest) : items? (n + 1) cs = some ([j], rest) := by
  simp only [items?, found, closes.skipSpace_eq, Option.bind_eq_bind, Option.bind_some]

theorem items?_of_more {js : List Json} {after more : List Char}
    (found : value? n cs = some (j, after)) (parts : Lexes (.mark ',') after more)
    (later : items? n more = some (js, rest)) : items? (n + 1) cs = some (j :: js, rest) := by
  simp only [items?, found, parts.skipSpace_eq, later, Option.bind_eq_bind, Option.bind_some]

theorem stringRest_of_name {name : Spelling} {colon : List Char}
    (named : Lexes (.atom (.string name)) cs colon) (fuel : cs.length ≤ n + 1 + colon.length) :
    ∃ body, skipSpace cs = '"' :: body ∧ stringRest n body = some (name, colon) := by
  obtain ⟨body, lexed, literal⟩ := named.exists_literal
  have shorter := length_skipSpace_le cs
  rw [lexed, List.length_cons] at shorter
  exact ⟨body, lexed, stringRest_of_literal literal n (by omega)⟩

theorem members?_of_last {name : Spelling} {colon value after : List Char}
    (named : Lexes (.atom (.string name)) cs colon) (fuel : cs.length ≤ n + 1 + colon.length)
    (marked : Lexes (.mark ':') colon value) (found : value? n value = some (j, after))
    (closes : Lexes (.mark '\x7d') after rest) : members? (n + 1) cs = some ([(name, j)], rest) := by
  obtain ⟨body, lexed, read⟩ := stringRest_of_name named fuel
  simp only [members?, lexed, read, marked.skipSpace_eq, found, closes.skipSpace_eq,
    Option.bind_eq_bind, Option.bind_some]

theorem members?_of_more {name : Spelling} {ms : List (Spelling × Json)}
    {colon value after more : List Char}
    (named : Lexes (.atom (.string name)) cs colon) (fuel : cs.length ≤ n + 1 + colon.length)
    (marked : Lexes (.mark ':') colon value) (found : value? n value = some (j, after))
    (parts : Lexes (.mark ',') after more) (later : members? n more = some (ms, rest)) :
    members? (n + 1) cs = some ((name, j) :: ms, rest) := by
  obtain ⟨body, lexed, read⟩ := stringRest_of_name named fuel
  simp only [members?, lexed, read, marked.skipSpace_eq, found, parts.skipSpace_eq, later,
    Option.bind_eq_bind, Option.bind_some]

/-- The reader finds every part that the grammar allows, with fuel for twice the length of its
text. -/
theorem Reads.found (h : Reads p cs rest) :
    ∀ n, 2 * cs.length + p.extra ≤ n + 2 * rest.length + 2 → p.Found (n + 1) cs rest := by
  -- A bracket takes one unit of fuel and the items in it another, for one character of text.
  induction h with
  | atom lexes =>
      intro n fuel
      have first := lexes.length_lt
      simp only [Part.extra] at fuel
      exact value?_of_atom lexes (by omega)
  | emptyArray opens closes =>
      intro n fuel
      simp only [Part.Found, value?, opens.skipSpace_eq, closes.skipSpace_eq]
  | emptyObject opens closes =>
      intro n fuel
      simp only [Part.Found, value?, opens.skipSpace_eq, closes.skipSpace_eq]
  | array opens inner ih =>
      intro n fuel
      have first := opens.length_lt
      have second := inner.length_lt
      simp only [Part.extra] at fuel ih
      obtain ⟨m, rfl⟩ : ∃ m, n = m + 1 := ⟨n - 1, by omega⟩
      exact value?_of_items opens inner.starts (ih m (by omega))
  | object opens inner ih =>
      intro n fuel
      have first := opens.length_lt
      have second := inner.length_lt
      simp only [Part.extra] at fuel ih
      obtain ⟨m, rfl⟩ : ∃ m, n = m + 1 := ⟨n - 1, by omega⟩
      exact value?_of_members opens inner.starts (ih m (by omega))
  | lastItem value closes ih =>
      intro n fuel
      have first := value.length_lt
      have second := closes.length_lt
      simp only [Part.extra] at fuel ih
      obtain ⟨m, rfl⟩ : ∃ m, n = m + 1 := ⟨n - 1, by omega⟩
      exact items?_of_last (ih m (by omega)) closes
  | item value parts more ih ih' =>
      intro n fuel
      have first := value.length_lt
      have second := parts.length_lt
      have third := more.length_lt
      simp only [Part.extra] at fuel ih ih'
      obtain ⟨m, rfl⟩ : ∃ m, n = m + 1 := ⟨n - 1, by omega⟩
      exact items?_of_more (ih m (by omega)) parts (ih' m (by omega))
  | lastMember named marked value closes ih =>
      intro n fuel
      have first := named.length_lt
      have second := marked.length_lt
      have third := value.length_lt
      have fourth := closes.length_lt
      simp only [Part.extra] at fuel ih
      obtain ⟨m, rfl⟩ : ∃ m, n = m + 1 := ⟨n - 1, by omega⟩
      exact members?_of_last named (by omega) marked (ih m (by omega)) closes
  | member named marked value parts more ih ih' =>
      intro n fuel
      have first := named.length_lt
      have second := marked.length_lt
      have third := value.length_lt
      have fourth := parts.length_lt
      have fifth := more.length_lt
      simp only [Part.extra] at fuel ih ih'
      obtain ⟨m, rfl⟩ : ∃ m, n = m + 1 := ⟨n - 1, by omega⟩
      exact members?_of_more named (by omega) marked (ih m (by omega)) parts (ih' m (by omega))

section Sound

variable (inner : ∀ {p cs rest}, Part.Found n cs rest p → Reads p cs rest)

include inner

theorem reads_of_value? (read : value? (n + 1) cs = some (j, rest)) : Reads (.value j) cs rest := by
  rw [value?] at read
  split at read
  · next lexed =>
    obtain ⟨rfl, rfl⟩ := Prod.mk.inj (Option.some.inj read)
    exact .atom (.word (.head _) lexed)
  · next lexed =>
    obtain ⟨rfl, rfl⟩ := Prod.mk.inj (Option.some.inj read)
    exact .atom (.word (.tail _ (.head _)) lexed)
  · next lexed =>
    obtain ⟨rfl, rfl⟩ := Prod.mk.inj (Option.some.inj read)
    exact .atom (.word (.tail _ (.tail _ (.head _))) lexed)
  · next lexed =>
    obtain ⟨⟨s, after⟩, found, made⟩ := Option.map_eq_some_iff.mp read
    obtain ⟨rfl, rfl⟩ := Prod.mk.inj made
    exact .atom (.string lexed (literal_of_stringRest found))
  · next lexed =>
    have opens := Lexes.mark (by decide) lexed
    split at read
    · next lexed' =>
      obtain ⟨rfl, rfl⟩ := Prod.mk.inj (Option.some.inj read)
      exact .emptyArray opens (.mark (by decide) lexed')
    · obtain ⟨⟨js, after⟩, found, made⟩ := Option.map_eq_some_iff.mp read
      obtain ⟨rfl, rfl⟩ := Prod.mk.inj made
      exact .array opens (@inner (.items js) _ _ found)
  · next lexed =>
    have opens := Lexes.mark (by decide) lexed
    split at read
    · next lexed' =>
      obtain ⟨rfl, rfl⟩ := Prod.mk.inj (Option.some.inj read)
      exact .emptyObject opens (.mark (by decide) lexed')
    · obtain ⟨⟨ms, after⟩, found, made⟩ := Option.map_eq_some_iff.mp read
      obtain ⟨rfl, rfl⟩ := Prod.mk.inj made
      exact .object opens (@inner (.members ms) _ _ found)
  · obtain ⟨⟨digits, after⟩, found, made⟩ := Option.map_eq_some_iff.mp read
    obtain ⟨rfl, rfl⟩ := Prod.mk.inj made
    exact .atom (.number found)

theorem reads_of_items? {js : List Json} (read : items? (n + 1) cs = some (js, rest)) :
    Reads (.items js) cs rest := by
  simp only [items?, Option.bind_eq_bind, Option.bind_eq_some_iff, Prod.exists] at read
  obtain ⟨j, after, found, read⟩ := read
  have value := @inner (.value j) _ _ found
  split at read
  · next lexed =>
    obtain ⟨rfl, rfl⟩ := Prod.mk.inj (Option.some.inj read)
    exact .lastItem value (.mark (by decide) lexed)
  · next lexed =>
    simp only [Option.bind_eq_some_iff, Prod.exists] at read
    obtain ⟨js, last, later, made⟩ := read
    obtain ⟨rfl, rfl⟩ := Prod.mk.inj (Option.some.inj made)
    exact .item value (.mark (by decide) lexed) (@inner (.items js) _ _ later)
  · cases read

theorem reads_of_members? {ms : List (Spelling × Json)}
    (read : members? (n + 1) cs = some (ms, rest)) : Reads (.members ms) cs rest := by
  rw [members?] at read
  split at read
  · next lexed =>
    simp only [Option.bind_eq_bind, Option.bind_eq_some_iff, Prod.exists] at read
    obtain ⟨s, colon, found, read⟩ := read
    have named := Lexes.string lexed (literal_of_stringRest found)
    split at read
    · next lexed' =>
      have marked := Lexes.mark (by decide) lexed'
      simp only [Option.bind_eq_some_iff, Prod.exists] at read
      obtain ⟨j, after, found', read⟩ := read
      have value := @inner (.value j) _ _ found'
      split at read
      · next lexed'' =>
        obtain ⟨rfl, rfl⟩ := Prod.mk.inj (Option.some.inj read)
        exact .lastMember named marked value (.mark (by decide) lexed'')
      · next lexed'' =>
        simp only [Option.bind_eq_some_iff, Prod.exists] at read
        obtain ⟨ms, last, later, made⟩ := read
        obtain ⟨rfl, rfl⟩ := Prod.mk.inj (Option.some.inj made)
        have more := @inner (.members ms) _ _ later
        exact .member named marked value (.mark (by decide) lexed'') more
      · cases read
    · cases read
  · cases read

end Sound

theorem reads_of_found : ∀ (n : Nat) {p cs rest}, Part.Found n cs rest p → Reads p cs rest := by
  intro n
  induction n with
  | zero =>
      intro p cs rest found
      cases p <;> cases found
  | succ n ih =>
      intro p cs rest found
      cases p with
      | value j => exact reads_of_value? ih found
      | items js => exact reads_of_items? ih found
      | members ms => exact reads_of_members? ih found

/-- A text spells a value when the value and white space are all of it. -/
theorem parse?_eq_some_iff {text : String} :
    parse? text = some j ↔ ∃ rest, Reads (.value j) text.toList rest ∧ skipSpace rest = [] := by
  unfold parse?
  constructor
  · intro read
    split at read
    · next found =>
      split at read
      · next ended =>
        obtain rfl := Option.some.inj read
        exact ⟨_, reads_of_found _ found, by simpa using ended⟩
      · cases read
    · cases read
  · rintro ⟨rest, reads, ended⟩
    have found : value? (2 * text.length + 2) text.toList = some (j, rest) := by
      apply reads.found
      rw [String.length_toList, Part.extra]
      omega
    simp only [found, ended, List.isEmpty_nil, if_true]

end Values

end Survey.Json
