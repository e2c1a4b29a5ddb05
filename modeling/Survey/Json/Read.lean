import Survey.Json.Basic
import Survey.Text.Hex

/-!
Reading of JSON text. The whole text is one value with white space around it.
-/
namespace Survey.Json

def isSpace (c : Char) : Bool :=
  c == ' ' || c == '\n' || c == '\t' || c == '\r'

def skipSpace (cs : List Char) : List Char :=
  cs.dropWhile isSpace

export Text (hexDigit?)

def hex4? : List Char → Option (Nat × List Char)
  | a :: b :: c :: d :: cs => do
    let a ← hexDigit? a
    let b ← hexDigit? b
    let c ← hexDigit? c
    let d ← hexDigit? d
    some (((a * 16 + b) * 16 + c) * 16 + d, cs)
  | _ => none

/-- The unit of an escape, after its backslash. -/
def escape? : List Char → Option (CodeUnit × List Char)
  | '"' :: cs => some (.char '"', cs)
  | '\\' :: cs => some (.char '\\', cs)
  | '/' :: cs => some (.char '/', cs)
  | 'b' :: cs => some (.char '\x08', cs)
  | 'f' :: cs => some (.char '\x0c', cs)
  | 'n' :: cs => some (.char '\n', cs)
  | 'r' :: cs => some (.char '\r', cs)
  | 't' :: cs => some (.char '\t', cs)
  | 'u' :: cs => (hex4? cs).map fun (n, rest) => (.ofCode n, rest)
  | _ => none

/-- The units of a string after its opening quote, and the text after its closing quote. -/
def stringRest : Nat → List Char → Option (Spelling × List Char)
  | 0, _ => none
  | fuel + 1, cs =>
    match cs with
    | [] => none
    | '"' :: rest => some ([], rest)
    | '\\' :: rest => do
      let (unit, rest) ← escape? rest
      let (more, after) ← stringRest fuel rest
      some (unit :: more, after)
    | c :: rest =>
      if c.toNat < 0x20 then none
      else (stringRest fuel rest).map fun (more, after) => (.char c :: more, after)

/-- A reader of a part of a number: the part and the text after it. -/
abbrev PartReader := List Char → Option (List Char × List Char)

def andThen (first second : PartReader) : PartReader := fun cs => do
  let (a, cs) ← first cs
  let (b, cs) ← second cs
  some (a ++ b, cs)

/-- A mark and the part after it, or nothing where no mark stands. -/
def marked? (marks : List Char) (part : PartReader) : PartReader
  | [] => some ([], [])
  | c :: cs =>
    if marks.contains c then (part cs).map fun (a, rest) => (c :: a, rest)
    else some ([], c :: cs)

def sign? (signs : List Char) : PartReader :=
  marked? signs fun cs => some ([], cs)

/-- A run of at least one digit. -/
def digits? : PartReader := fun cs =>
  if (cs.takeWhile Char.isDigit).isEmpty then none
  else some (cs.takeWhile Char.isDigit, cs.dropWhile Char.isDigit)

/-- The digits in front of a point; a zero in front stands alone. -/
def whole? : PartReader := fun cs => do
  let (digits, rest) ← digits? cs
  if digits.head? == some '0' && 1 < digits.length then none else some (digits, rest)

def fraction? : PartReader :=
  marked? ['.'] digits?

/-- The digits of a power of ten. -/
def exponent? : PartReader :=
  marked? ['e', 'E'] (andThen (sign? ['+', '-']) digits?)

def number? (cs : List Char) : Option (String × List Char) :=
  (andThen (sign? ['-']) (andThen whole? (andThen fraction? exponent?)) cs).map
    fun (digits, rest) => (String.ofList digits, rest)

mutual

def value? : Nat → List Char → Option (Json × List Char)
  | 0, _ => none
  | fuel + 1, cs =>
    match skipSpace cs with
    | 'n' :: 'u' :: 'l' :: 'l' :: rest => some (.null, rest)
    | 't' :: 'r' :: 'u' :: 'e' :: rest => some (.bool true, rest)
    | 'f' :: 'a' :: 'l' :: 's' :: 'e' :: rest => some (.bool false, rest)
    | '"' :: rest => (stringRest fuel rest).map fun (s, after) => (.string s, after)
    | '[' :: rest =>
      match skipSpace rest with
      | ']' :: after => some (.array [], after)
      | _ => (items? fuel rest).map fun (js, after) => (.array js, after)
    | '\x7b' :: rest =>
      match skipSpace rest with
      | '\x7d' :: after => some (.object [], after)
      | _ => (members? fuel rest).map fun (ms, after) => (.object ms, after)
    | rest => (number? rest).map fun (digits, after) => (.number digits, after)

/-- The items of an array up to and with its bracket. -/
def items? : Nat → List Char → Option (List Json × List Char)
  | 0, _ => none
  | fuel + 1, cs => do
    let (j, rest) ← value? fuel cs
    match skipSpace rest with
    | ']' :: after => some ([j], after)
    | ',' :: rest =>
      let (js, after) ← items? fuel rest
      some (j :: js, after)
    | _ => none

/-- The members of an object up to and with its brace. -/
def members? : Nat → List Char → Option (List (Spelling × Json) × List Char)
  | 0, _ => none
  | fuel + 1, cs => do
    match skipSpace cs with
    | '"' :: rest =>
      let (name, rest) ← stringRest fuel rest
      match skipSpace rest with
      | ':' :: rest =>
        let (j, rest) ← value? fuel rest
        match skipSpace rest with
        | '\x7d' :: after => some ([(name, j)], after)
        | ',' :: rest =>
          let (ms, after) ← members? fuel rest
          some ((name, j) :: ms, after)
        | _ => none
      | _ => none
    | _ => none

end

def parse? (text : String) : Option Json :=
  match value? (2 * text.length + 2) text.toList with
  | some (j, rest) => if (skipSpace rest).isEmpty then some j else none
  | none => none

end Survey.Json
