/-!
A place in a YAML text, with the line and column that decide about its structure.
-/
namespace Survey.Yaml

def isBreak (c : Char) : Bool :=
  c = '\n' || c = '\r' || c = '\u0085' || c = '\u2028' || c = '\u2029'

def isSpace (c : Char) : Bool :=
  c = ' ' || c = '\t'

def isNameChar (c : Char) : Bool :=
  c.isAlphanum || c = '_' || c = '-'

/-- Whether a rest is empty or begins with white space. -/
def atGap (rest : List Char) : Bool :=
  rest.head?.all fun c => isSpace c || isBreak c

/-- The characters that a text may hold. -/
def isAllowed (c : Char) : Bool :=
  let n := c.toNat
  n = 0x09 || n = 0x0A || n = 0x0D || (0x20 ≤ n && n ≤ 0x7E) || n = 0x85 ||
    (0xA0 ≤ n && n ≠ 0xFEFF && n ≠ 0xFFFE && n ≠ 0xFFFF)

structure Cursor where
  rest : List Char
  index : Nat := 0
  line : Nat := 0
  column : Nat := 0

namespace Cursor

def skip (c : Cursor) (n : Nat) : Cursor :=
  { c with rest := c.rest.drop n, index := c.index + n, column := c.column + n }

def skipWhile (c : Cursor) (p : Char → Bool) : Cursor :=
  c.skip (c.rest.takeWhile p).length

/-- Past the end of a line, with the character it stands for. -/
def break? (c : Cursor) : Option (Char × Cursor) :=
  match c.rest with
  | '\r' :: '\n' :: rest =>
    some ('\n', { rest, index := c.index + 2, line := c.line + 1, column := 0 })
  | b :: rest =>
    if isBreak b then
      some (if b = '\u2028' || b = '\u2029' then b else '\n',
        { rest, index := c.index + 1, line := c.line + 1, column := 0 })
    else none
  | [] => none

def isAt (c : Cursor) (ch : Char) : Bool :=
  c.rest.head? = some ch

/-- Whether a line begins here with one of the marks between documents. -/
def atMark (c : Cursor) (mark : List Char) : Bool :=
  c.column = 0 &&
    match mark.isPrefixOf? c.rest with
    | some rest => atGap rest
    | none => false

def atAnyMark (c : Cursor) : Bool :=
  c.atMark ['-', '-', '-'] || c.atMark ['.', '.', '.']

end Cursor

end Survey.Yaml
