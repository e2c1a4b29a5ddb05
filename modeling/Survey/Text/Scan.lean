import Survey.Text.Basic
import Survey.Text.Word

/-!
Searching a text from left to right for a shape that is recognised at a place. A recogniser reads
from the start of a text and gives what it found and the text after it.
-/
namespace Survey.Text

/-- What is found at the start of a text, and the rest. -/
abbrev Recogniser (α : Type) := List Char → Option (α × List Char)

def lit (w : String) (cs : List Char) : Option (List Char) :=
  w.toList.isPrefixOf? cs

def skipBlank (cs : List Char) : List Char :=
  cs.dropWhile isBlank

def one (p : Char → Bool) : List Char → Option (List Char)
  | [] => none
  | c :: cs => if p c then some cs else none

/-- A run of at least one character that satisfies `p`. -/
def run1 (p : Char → Bool) : Recogniser String := fun cs =>
  match cs.takeWhile p with
  | [] => none
  | w => some (String.ofList w, cs.dropWhile p)

def isQuote (c : Char) : Bool :=
  c == '"' || c == '\''

def isAnyQuote (c : Char) : Bool :=
  isQuote c || c == '\x60'

/-- An ASCII letter or an underscore, then word characters. -/
def plainName : Recogniser String
  | [] => none
  | c :: cs =>
    if c.isAlpha || c == '_' then
      some (String.ofList (c :: cs.takeWhile isWord), cs.dropWhile isWord)
    else none

/-- All that a recogniser finds from left to right without overlap; it sees the character before
the place. The next `skip` characters belong to what was found last. -/
def findFrom {α : Type} (p : Option Char → Recogniser α) :
    (before : Option Char) → (skip : Nat) → List Char → List α
  | _, _, [] => []
  | _, k + 1, c :: cs => findFrom p (some c) k cs
  | before, 0, c :: cs =>
    match p before (c :: cs) with
    | some (a, rest) => a :: findFrom p (some c) (cs.length - rest.length) cs
    | none => findFrom p (some c) 0 cs

def findAll {α : Type} (p : Recogniser α) (cs : List Char) : List α :=
  findFrom (fun _ => p) none 0 cs

def findFirst? {α : Type} (p : Recogniser α) (cs : List Char) : Option α :=
  (findAll p cs).head?

/-- The first thing found that does not continue a word. -/
def findWord? {α : Type} (p : Recogniser α) (cs : List Char) : Option α :=
  (findFrom (fun before cs => if before.any isWord then none else p cs) none 0 cs).head?

end Survey.Text
