import Survey.Calendar.Date
import Survey.Text.Scan

/-!
Points in time, on a day and within it, as they are written with an offset from universal time.
White space may stand before every part of the text.
-/
namespace Survey

/-- A point in universal time. Within the last second of a minute the billionths may go on past one
second, for a leap second. -/
structure Instant where
  date : Date
  /-- The whole seconds since the start of the day. -/
  second : Nat := 0
  nano : Nat := 0
  deriving DecidableEq

namespace Instant

open Survey.Text (skipBlank Recogniser)

/-- A number of at most so many digits. -/
def number (width : Nat) : Recogniser Nat := fun cs =>
  match (cs.take width).takeWhile Char.isDigit with
  | [] => none
  | digits => some (Date.number digits, cs.drop digits.length)

def pair : Recogniser Nat := fun cs =>
  number 2 (skipBlank cs)

/-- A year of at most four digits, or of any number of them behind a sign. -/
def year : Recogniser Int := fun cs =>
  match skipBlank cs with
  | '-' :: digits => (number digits.length digits).map fun (n, rest) => (-n, rest)
  | '+' :: digits => (number digits.length digits).map fun (n, rest) => (n, rest)
  | digits => (number 4 digits).map fun (n, rest) => (n, rest)

def mark? (c : Char) (cs : List Char) : Option (List Char) :=
  Text.one (· == c) (skipBlank cs)

/-- The billionths behind a point; digits past the ninth are dropped. -/
def fraction : Recogniser Nat
  | '.' :: digits => do
    let (n, rest) ← number 9 digits
    some (n * Nat.pow 10 (9 - (digits.length - rest.length)), rest.dropWhile Char.isDigit)
  | cs => some (0, cs)

/-- The hours and minutes of an offset, in minutes. -/
def clockOffset (cs : List Char) : Option (Nat × List Char) := do
  match cs with
  | a :: b :: rest =>
    let hours ← if a.isDigit && b.isDigit then some (Date.number [a, b]) else none
    match rest.dropWhile fun c => c == ':' || Text.isBlank c with
    | c :: d :: rest =>
      let minutes ← if c.isDigit && d.isDigit then some (Date.number [c, d]) else none
      if hours < 24 ∧ minutes < 60 then some (hours * 60 + minutes, rest) else none
    | _ => none
  | _ => none

/-- An offset from universal time, in minutes. -/
def offset : Recogniser Int := fun cs =>
  match skipBlank cs with
  | 'Z' :: rest => some (0, rest)
  | 'z' :: rest => some (0, rest)
  | '+' :: rest => (clockOffset rest).map fun (n, rest) => (n, rest)
  | '-' :: rest => (clockOffset rest).map fun (n, rest) => (-n, rest)
  | '\u2212' :: rest => (clockOffset rest).map fun (n, rest) => (-n, rest)
  | u :: t :: c :: rest =>
    if [u, t, c].map Char.toUpper == ['U', 'T', 'C'] then some (0, rest) else none
  | _ => none

/-- The years that dates are reckoned in. -/
def isReckoned (d : Date) : Bool :=
  -262143 ≤ d.year ∧ d.year ≤ 262142

/-- A day, hour, minute and second at an offset, moved to universal time. -/
def at? (d : Date) (hour minute second nano : Nat) (minutesEast : Int) : Option Instant := do
  if 23 < hour ∨ 59 < minute ∨ 60 < second ∨ !isReckoned d then none else
  let leap := if second = 60 then 1 else 0
  let moved : Int := (hour * 3600 + minute * 60 + (second - leap) : Nat) - minutesEast * 60
  let (date, moved) :=
    if moved < 0 then (d.previous, moved + 86400)
    else if 86400 ≤ moved then (d.next, moved - 86400)
    else (d, moved)
  if isReckoned date then some ⟨date, moved.toNat, nano + leap * Nat.pow 10 9⟩ else none

def parse? (text : String) : Option Instant := do
  let (year, cs) ← year text.toList
  let (month, cs) ← pair (← mark? '-' cs)
  let (day, cs) ← pair (← mark? '-' cs)
  let cs ← Text.one (fun c => c == 'T' || c == 't' || c == ' ') cs
  let (hour, cs) ← pair cs
  let (minute, cs) ← pair (← mark? ':' cs)
  let (second, cs) ← pair (← mark? ':' cs)
  let (nano, cs) ← fraction cs
  let (minutesEast, cs) ← offset cs
  if skipBlank cs ≠ [] then none else
  at? (← Date.of? year month day) hour minute second nano minutesEast

/-- The point so many seconds and billionths after the start of 1970. -/
def ofSeconds (seconds : Int) (nano : Nat) : Instant :=
  ⟨Date.ofDayNumber (seconds / 86400), (seconds % 86400).toNat, nano⟩

/-- Billionths behind a point, in as many groups of three digits as they need. -/
def fractionText (nano : Nat) : String :=
  if nano = 0 then ""
  else if nano % Nat.pow 10 6 = 0 then "." ++ Text.decimal 3 (nano / Nat.pow 10 6)
  else if nano % Nat.pow 10 3 = 0 then "." ++ Text.decimal 6 (nano / Nat.pow 10 3)
  else "." ++ Text.decimal 9 nano

def iso (i : Instant) : String :=
  let second := i.second % 60 + i.nano / Nat.pow 10 9
  i.date.iso ++ "T" ++ Text.join ":" [Text.decimal 2 (i.second / 3600),
    Text.decimal 2 (i.second / 60 % 60), Text.decimal 2 second] ++
    fractionText (i.nano % Nat.pow 10 9) ++ "Z"

end Instant

end Survey
