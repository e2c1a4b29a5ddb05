import Survey.Json.Basic
import Survey.Text.Hex

/-!
JSON text with one member or item a line, two spaces a level.
-/
namespace Survey.Json

def ofNat (n : Nat) : Json :=
  .number (String.ofList (Nat.toDigits 10 n))

def ofString (text : String) : Json :=
  .string (.ofString text)

def ofStrings (texts : List String) : Json :=
  .array (texts.map ofString)

def ofMembers (members : List (String × Json)) : Json :=
  .object (members.map fun (name, j) => (.ofString name, j))

def escapeCode (n : Nat) : List Char :=
  ['\\', 'u'] ++ Text.hexOfByte (UInt8.ofNat (n / 256)) ++ Text.hexOfByte (UInt8.ofNat n)

/-- A character inside a string. Quotation marks, backslashes and control characters are escaped. -/
def escapeChar (c : Char) : List Char :=
  match c with
  | '"' => ['\\', '"']
  | '\\' => ['\\', '\\']
  | '\n' => ['\\', 'n']
  | '\r' => ['\\', 'r']
  | '\t' => ['\\', 't']
  | '\x08' => ['\\', 'b']
  | '\x0c' => ['\\', 'f']
  | c => if c.toNat < 32 then escapeCode c.toNat else [c]

def escapeUnit : CodeUnit → List Char
  | .char c => escapeChar c
  | .high bits => escapeCode (0xD800 + bits)
  | .low bits => escapeCode (0xDC00 + bits)

def quote (s : Spelling) : String :=
  String.ofList ('"' :: s.flatMap escapeUnit ++ ['"'])

mutual

/-- The text of a value whose lines begin with an indentation. -/
def render (indent : String) : Json → String
  | .null => "null"
  | .bool b => if b then "true" else "false"
  | .number digits => digits
  | .string s => quote s
  | .array [] => "[]"
  | .array (item :: items) => "[\n" ++ renderItems (indent ++ "  ") (item :: items) ++ "\n" ++ indent ++ "]"
  | .object [] => "\x7b\x7d"
  | .object (member :: members) =>
    "\x7b\n" ++ renderMembers (indent ++ "  ") (member :: members) ++ "\n" ++ indent ++ "\x7d"

def renderItems (indent : String) : List Json → String
  | [] => ""
  | [item] => indent ++ render indent item
  | item :: items => indent ++ render indent item ++ ",\n" ++ renderItems indent items

def renderMembers (indent : String) : List (Spelling × Json) → String
  | [] => ""
  | [(name, value)] => indent ++ quote name ++ ": " ++ render indent value
  | (name, value) :: members =>
    indent ++ quote name ++ ": " ++ render indent value ++ ",\n" ++ renderMembers indent members

end

def pretty (j : Json) : String :=
  render "" j

end Survey.Json
