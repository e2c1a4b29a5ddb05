import Survey.Json.Read
import Survey.Yaml.Cursor

/-!
Scalars of a YAML text: plain, quoted, and blocks of lines. Line ends inside a scalar are folded by
one rule: a single one is a space, and of several the first is dropped.
-/
namespace Survey.Yaml

inductive Style where
  | plain | single | double | literal | folded
  deriving DecidableEq

/-- White space between two parts of a scalar. -/
structure Gap where
  /-- The blanks before the first line end. -/
  spaces : List Char := []
  breaks : List Char := []

def Gap.text (g : Gap) : List Char :=
  match g.breaks with
  | [] => g.spaces
  | ['\n'] => [' ']
  | '\n' :: more => more
  | breaks => breaks

/-- The white space at a place. A tab on a later line must not stand before column `limit`. -/
def readGap (limit : Int) : Nat → Cursor → Gap → Option (Gap × Cursor)
  | 0, c, g => some (g, c)
  | n + 1, c, g =>
    match c.break? with
    | some (b, next) => readGap limit n next { g with breaks := g.breaks ++ [b] }
    | none =>
      match c.rest with
      | [] => some (g, c)
      | ch :: _ =>
        if !isSpace ch then some (g, c)
        else if g.breaks.isEmpty then
          readGap limit n (c.skip 1) { g with spaces := g.spaces ++ [ch] }
        else if ch = '\t' && c.column < limit then none
        else readGap limit n (c.skip 1) g

/-! ## Plain scalars -/

/-- The characters that end a plain scalar inside brackets. -/
def isFlowMark (c : Char) : Bool :=
  c = ',' || c = '[' || c = ']' || c = '\x7b' || c = '\x7d'

/-- The characters of a plain scalar up to a gap or its end; none where a colon stands wrongly. -/
def plainWord (flow : Bool) : List Char → Option (List Char)
  | [] => some []
  | c :: cs =>
    if isSpace c || isBreak c then some []
    else if flow && c = ':' && cs.head?.any (fun d => isFlowMark d || d = '?') then none
    else if (c = ':' && atGap cs) || (flow && isFlowMark c) then some []
    else (plainWord flow cs).map (c :: ·)

/-- A scalar that was read, the place behind it, and whether a line ended after it. -/
structure Reading where
  text : List Char
  cursor : Cursor
  brokeLine : Bool := false

/-- A plain scalar behind `read`, with the gap before the next word. -/
def plainFrom (flow : Bool) (limit : Int) :
    Nat → Cursor → List Char → Gap → Option Reading
  | 0, _, _, _ => none
  | n + 1, c, read, gap =>
    let done : Reading := ⟨read, c, !gap.breaks.isEmpty⟩
    if c.atAnyMark || c.isAt '#' then some done
    else do
      let word ← plainWord flow c.rest
      let now := if word.isEmpty then done else ⟨read ++ gap.text ++ word, c.skip word.length, false⟩
      let (next, after) ← readGap limit (c.rest.length + 1) now.cursor {}
      if word.isEmpty || (next.spaces.isEmpty && next.breaks.isEmpty) then some now
      else if !flow && after.column < limit then some ⟨now.text, after, !next.breaks.isEmpty⟩
      else plainFrom flow limit n after now.text next

/-- The plain scalar at a place; its lines must reach column `limit` outside brackets. -/
def plain (flow : Bool) (limit : Int) (c : Cursor) : Option Reading :=
  plainFrom flow limit (c.rest.length + 1) c [] {}

/-! ## Quoted scalars -/

/-- The character that a letter after a backslash stands for. -/
def escapeChar? : Char → Option Char
  | '0' => some '\x00'
  | 'a' => some '\x07'
  | 'b' => some '\x08'
  | 't' => some '\t'
  | '\t' => some '\t'
  | 'n' => some '\n'
  | 'v' => some '\x0b'
  | 'f' => some '\x0c'
  | 'r' => some '\r'
  | 'e' => some '\x1b'
  | ' ' => some ' '
  | '"' => some '"'
  | '/' => some '/'
  | '\\' => some '\\'
  | 'N' => some '\u0085'
  | '_' => some '\u00a0'
  | 'L' => some '\u2028'
  | 'P' => some '\u2029'
  | _ => none

/-- The number of digits that follow a letter after a backslash. -/
def codeLength? : Char → Option Nat
  | 'x' => some 2
  | 'u' => some 4
  | 'U' => some 8
  | _ => none

/-- The character after a backslash, and how many characters write it. -/
def escape? : List Char → Option (Char × Nat)
  | [] => none
  | c :: cs =>
    match codeLength? c with
    | none => (escapeChar? c).map (·, 1)
    | some n => do
      let digits ← (cs.take n).mapM Json.hexDigit?
      let code := digits.foldl (fun code d => code * 16 + d) 0
      if digits.length = n && code.isValidChar then some (Char.ofNat code, n + 1) else none

/-- The characters of a quoted scalar up to a gap or its end; the flag tells of an escaped line
end. -/
def quotedWord (quote : Char) : Nat → Cursor → List Char → Option (Reading)
  | 0, _, _ => none
  | n + 1, c, read =>
    match c.rest with
    | [] => some ⟨read.reverse, c, false⟩
    | ch :: cs =>
      if isSpace ch || isBreak ch then some ⟨read.reverse, c, false⟩
      else if ch = quote then
        if quote = '\'' && cs.head? = some '\'' then quotedWord quote n (c.skip 2) ('\'' :: read)
        else some ⟨read.reverse, c, false⟩
      else if quote = '"' && ch = '\\' then
        match (c.skip 1).break? with
        | some (_, next) => some ⟨read.reverse, next, true⟩
        | none => do
          let (char, size) ← escape? cs
          quotedWord quote n (c.skip (size + 1)) (char :: read)
      else quotedWord quote n (c.skip 1) (ch :: read)

def quotedFrom (quote : Char) : Nat → Cursor → List Char → Option Reading
  | 0, _, _ => none
  | n + 1, c, read =>
    if c.atAnyMark || c.rest.isEmpty then none
    else do
      let word ← quotedWord quote (c.rest.length + 1) c []
      let read := read ++ word.text
      if word.cursor.isAt quote then some ⟨read, word.cursor.skip 1, false⟩
      else
        let (gap, after) ← readGap 0 (c.rest.length + 1) word.cursor {}
        quotedFrom quote n after (read ++ if word.brokeLine then gap.breaks else gap.text)

def quotedScalar (quote : Char) (c : Cursor) : Option Reading :=
  quotedFrom quote (c.rest.length + 1) (c.skip 1) []

/-! ## Blocks of lines -/

/-- What becomes of the line ends behind a block. -/
inductive Chomp where
  | strip | clip | keep
  deriving DecidableEq

def chomp? : Char → Option Chomp
  | '+' => some .keep
  | '-' => some .strip
  | _ => none

/-- A digit for the depth of a block; zero is none. -/
def depth? (c : Char) : Option Nat :=
  if c.isDigit && c ≠ '0' then some (c.toNat - '0'.toNat) else none

/-- The signs behind the mark of a block: what to chomp, and a depth, in any order. -/
def blockHead (c : Cursor) : Chomp × Option Nat × Cursor :=
  match c.rest with
  | a :: b :: _ =>
    match chomp? a, depth? a, chomp? b, depth? b with
    | some chomp, _, _, some depth => (chomp, some depth, c.skip 2)
    | _, some depth, some chomp, _ => (chomp, some depth, c.skip 2)
    | some chomp, _, _, _ => (chomp, none, c.skip 1)
    | _, some depth, _, _ => (.clip, some depth, c.skip 1)
    | _, _, _, _ => (.clip, none, c)
  | [a] =>
    match chomp? a, depth? a with
    | some chomp, _ => (chomp, none, c.skip 1)
    | _, some depth => (.clip, some depth, c.skip 1)
    | _, _ => (.clip, none, c)
  | [] => (.clip, none, c)

/-- Past the rest of a line that holds no more than a comment. -/
def endLine? (c : Cursor) : Option Cursor :=
  let c := c.skipWhile isSpace
  let c := if c.isAt '#' then c.skipWhile (fun ch => !isBreak ch) else c
  match c.break? with
  | some (_, next) => some next
  | none => if c.rest.isEmpty then some c else none

/-- The empty lines before a line of a block, the widest indentation seen, and the place behind the
indentation of that line. An indentation of zero is not known yet. -/
def blockBreaks (indent : Nat) : Nat → Nat → Cursor → List Char → Option (List Char × Nat × Cursor)
  | 0, _, _, _ => none
  | n + 1, widest, c, breaks =>
    let spaces := (c.rest.takeWhile (· = ' ')).length
    let c := c.skip (if indent = 0 then spaces else min spaces (indent - c.column))
    let widest := max widest c.column
    if (indent = 0 || c.column < indent) && c.isAt '\t' then none
    else
      match c.break? with
      | some (b, next) => blockBreaks indent n widest next (breaks ++ [b])
      | none => some (breaks, widest, c)

structure OpenBlock where
  text : List Char := []
  /-- The end of the last line. -/
  lineEnd : List Char := []
  /-- The ends of the empty lines behind it. -/
  empty : List Char := []
  /-- Whether the last line begins with a blank. -/
  startsBlank : Bool := false

def blockLines (isLiteral : Bool) (indent : Nat) : Nat → Cursor → OpenBlock → Option (OpenBlock × Cursor)
  | 0, _, _ => none
  | n + 1, c, b =>
    if c.column ≠ indent || c.rest.isEmpty then some (b, c)
    else do
      let blank := c.rest.head?.any isSpace
      let folds := !isLiteral && b.lineEnd = ['\n'] && !b.startsBlank && !blank
      let joint := if !folds then b.lineEnd else if b.empty.isEmpty then [' '] else []
      let line := c.rest.takeWhile (fun ch => !isBreak ch)
      let behind := c.skip line.length
      let (lineEnd, next) :=
        match behind.break? with
        | some (ch, next) => ([ch], next)
        | none => ([], behind)
      let (empty, _, next) ← blockBreaks indent (c.rest.length + 1) 0 next []
      blockLines isLiteral indent n next ⟨b.text ++ joint ++ b.empty ++ line, lineEnd, empty, blank⟩

def block (isLiteral : Bool) (outer : Int) (c : Cursor) : Option Reading := do
  let (chomp, depth, c) := blockHead (c.skip 1)
  let c ← endLine? c
  let given := depth.map fun d => if 0 ≤ outer then outer.toNat + d else d
  let (empty, widest, start) ← blockBreaks (given.getD 0) (c.rest.length + 1) 0 c []
  let indent := given.getD (max widest (max (outer + 1).toNat 1))
  let (b, next) ← blockLines isLiteral indent (c.rest.length + 1) start { empty }
  let tail :=
    match chomp with
    | .strip => []
    | .clip => b.lineEnd
    | .keep => b.lineEnd ++ b.empty
  return ⟨b.text ++ tail, next, false⟩

end Survey.Yaml
