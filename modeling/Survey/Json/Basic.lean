/-!
JSON values. An object keeps its members in the order of the text, repeated names included, a number
keeps its digits, and a string keeps the halves of characters that are given by code. Two halves are
joined only where a text is wanted, so that a value which nobody reads may have one without the other.
-/
namespace Survey

namespace Json

/-- What a string is made of: characters, and the higher and lower bits of others. -/
inductive CodeUnit where
  | char (c : Char)
  | high (bits : Fin 0x400)
  | low (bits : Fin 0x400)
  deriving DecidableEq

def CodeUnit.ofCode (n : Nat) : CodeUnit :=
  if high : 0xD800 ≤ n ∧ n < 0xDC00 then .high ⟨n - 0xD800, by omega⟩
  else if low : 0xDC00 ≤ n ∧ n < 0xE000 then .low ⟨n - 0xDC00, by omega⟩
  else .char (Char.ofNat n)

abbrev Spelling := List CodeUnit

def Spelling.ofString (s : String) : Spelling :=
  s.toList.map .char

/-- The characters of a spelling, unless half of a character stands in it without the other half. -/
def Spelling.characters? : Spelling → Option (List Char)
  | [] => some []
  | .char c :: units => (characters? units).map (c :: ·)
  | .high a :: .low b :: units =>
    (characters? units).map (Char.ofNat (0x10000 + a * 0x400 + b) :: ·)
  | _ => none

def Spelling.text? (s : Spelling) : Option String :=
  s.characters?.map String.ofList

end Json

inductive Json where
  | null
  | bool (b : Bool)
  | number (digits : String)
  | string (s : Json.Spelling)
  | array (items : List Json)
  | object (members : List (Json.Spelling × Json))

namespace Json

/-- The largest number that a natural number field holds. -/
def maxNatural : Nat :=
  Nat.pow 2 64 - 1

def natural? : Json → Option Nat
  | .number digits =>
    if digits.toList.all Char.isDigit then
      let n := digits.toList.foldl (fun acc c => 10 * acc + (c.toNat - '0'.toNat)) 0
      if n ≤ maxNatural then some n else none
    else none
  | _ => none

def string? : Json → Option String
  | .string s => s.text?
  | _ => none

def bool? : Json → Option Bool
  | .bool b => some b
  | _ => none

def list? {α : Type} (item : Json → Option α) : Json → Option (List α)
  | .array items => items.mapM item
  | _ => none

def optional? {α : Type} (value : Json → Option α) : Json → Option (Option α)
  | .null => some none
  | j => (value j).map some

/-- Members whose names are all texts. -/
def named? (members : List (Spelling × Json)) : Option (List (String × Json)) :=
  members.mapM fun (name, j) => name.text?.map fun text => (text, j)

/-- An object as a table: a repeated name takes the last value, and names ascend. -/
def table? {α : Type} (value : Json → Option α) : Json → Option (List (String × α))
  | .object members => do
    let read ← (← named? members).mapM fun (name, j) => (value j).map fun v => (name, v)
    let kept := read.foldr (fun entry (acc : List (String × α)) =>
      if acc.any fun e => e.1 == entry.1 then acc else entry :: acc) []
    some (kept.mergeSort fun a b => a.1 ≤ b.1)
  | _ => none

end Json

/-- The members of a record as they stand in a JSON value: an object by names, or an array by
position. -/
structure Record where
  members : List (String × Json)
  /-- Whether the members were given by position, so that none may be missing silently. -/
  positional : Bool

namespace Record

/-- The members of a record with the given field names. An object may not repeat one of them, and
other names are passed over; an array may not be longer than the names. -/
def ofJson? (fields : List String) : Json → Option Record
  | .object members => do
    let known := (← Json.named? members).filter fun m => fields.contains m.1
    if (known.map Prod.fst).eraseDups.length = known.length then some ⟨known, false⟩ else none
  | .array items => if items.length ≤ fields.length then some ⟨fields.zip items, true⟩ else none
  | _ => none

def get? (r : Record) (field : String) : Option Json :=
  r.members.lookup field

def required {α : Type} (r : Record) (field : String) (read : Json → Option α) : Option α :=
  (r.get? field).bind read

/-- A field with a value that stands in for a missing one. -/
def withDefault {α : Type} (r : Record) (field : String) (d : α) (read : Json → Option α) :
    Option α :=
  match r.get? field with
  | some j => read j
  | none => some d

/-- A field that may be null, and missing where members have names. -/
def optional {α : Type} (r : Record) (field : String) (read : Json → Option α) :
    Option (Option α) :=
  match r.get? field with
  | some j => Json.optional? read j
  | none => if r.positional then none else some none

end Record

end Survey
