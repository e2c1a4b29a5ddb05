import Survey.Text.Hex

/-!
Days of the Gregorian calendar.
-/
namespace Survey

structure Date where
  year : Int
  month : Nat
  day : Nat
  deriving DecidableEq

namespace Date

def isLeap (year : Int) : Bool :=
  year % 4 = 0 ∧ (year % 100 ≠ 0 ∨ year % 400 = 0)

/-- The number of days of a month; none for a number that is no month. -/
def daysIn (year : Int) (month : Nat) : Nat :=
  if month = 2 then (if isLeap year then 29 else 28)
  else if month ∈ [4, 6, 9, 11] then 30
  else if 1 ≤ month ∧ month ≤ 12 then 31
  else 0

def exists? (d : Date) : Bool :=
  1 ≤ d.day ∧ d.day ≤ daysIn d.year d.month

def of? (year : Int) (month day : Nat) : Option Date :=
  let d : Date := ⟨year, month, day⟩
  if d.exists? then some d else none

def before (d e : Date) : Bool :=
  d.year < e.year ∨ d.year = e.year ∧ (d.month < e.month ∨ d.month = e.month ∧ d.day < e.day)

def next (d : Date) : Date :=
  if d.day < daysIn d.year d.month then { d with day := d.day + 1 }
  else if d.month < 12 then { d with month := d.month + 1, day := 1 }
  else ⟨d.year + 1, 1, 1⟩

def previous (d : Date) : Date :=
  if 1 < d.day then { d with day := d.day - 1 }
  else if 1 < d.month then { d with month := d.month - 1, day := daysIn d.year (d.month - 1) }
  else ⟨d.year - 1, 12, 31⟩

/-- The day so many days after the first of January 1970. Years are counted from March on, so that a
leap day ends its year, and the calendar repeats every 400 years. -/
def ofDayNumber (n : Int) : Date :=
  let days := n + 719468
  let cycle := days / 146097
  let inCycle := (days % 146097).toNat
  let yearOfCycle :=
    (inCycle - inCycle / 1460 + inCycle / 36524 - inCycle / 146096) / 365
  let dayOfYear := inCycle - (365 * yearOfCycle + yearOfCycle / 4 - yearOfCycle / 100)
  let monthFromMarch := (5 * dayOfYear + 2) / 153
  let day := dayOfYear - (153 * monthFromMarch + 2) / 5 + 1
  let year := cycle * 400 + yearOfCycle
  if monthFromMarch < 10 then ⟨year, monthFromMarch + 3, day⟩
  else ⟨year + 1, monthFromMarch - 9, day⟩

/-- A year of four digits, or with a sign when four do not hold it. -/
def yearText (year : Int) : String :=
  if 0 ≤ year ∧ year ≤ 9999 then Text.decimal 4 year.toNat
  else (if year < 0 then "-" else "+") ++ Text.decimal 4 year.natAbs

def iso (d : Date) : String :=
  "-".intercalate [yearText d.year, Text.decimal 2 d.month, Text.decimal 2 d.day]

def number (digits : List Char) : Nat :=
  digits.foldl (fun n c => 10 * n + (c.toNat - '0'.toNat)) 0

def ofDigits? (digits : List Char) : Option Date :=
  if digits.length = 8 ∧ digits.all Char.isDigit then
    of? (number (digits.take 4)) (number ((digits.drop 4).take 2)) (number (digits.drop 6))
  else none

def ofIso? (s : String) : Option Date :=
  match s.toList with
  | [a, b, c, d, '-', m, n, '-', x, y] => ofDigits? [a, b, c, d, m, n, x, y]
  | _ => none

end Date

end Survey
