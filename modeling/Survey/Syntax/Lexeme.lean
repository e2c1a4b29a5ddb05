import Survey.Syntax.Tree

/-!
The lexemes of scripts: white space, comments, names, numbers, strings, regular expressions,
template text and markup text. Each scan gives the number of glyphs of the lexeme at the start of
the text, if there is one.
-/
namespace Survey.Syntax.Lexeme

/-- The length of the lexeme at the start of a text. -/
abbrev Scan := List Glyph → Option Nat

def isSpace (c : Char) : Bool :=
  let n := c.toNat
  (0x09 ≤ n && n ≤ 0x0D) || n == 0x20 || n == 0xA0 || n == 0x1680 ||
    (0x2000 ≤ n && n ≤ 0x200B) || n == 0x2028 || n == 0x2029 || n == 0x202F ||
    n == 0x205F || n == 0x2060 || n == 0x3000 || n == 0xFEFF

/-- Characters that no name holds besides white space and controls. -/
def isPunctuation (c : Char) : Bool :=
  ":;`\"'@#.,|^&<=>+-*/\\%?!~()[]\x7b\x7d".toList.contains c

def isNamePart (c : Char) : Bool :=
  0x20 < c.toNat && !isSpace c && !isPunctuation c

def isNameStart (c : Char) : Bool :=
  isNamePart c && !c.isDigit

def isHex (c : Char) : Bool :=
  c.isDigit || ('a' ≤ c && c ≤ 'f') || ('A' ≤ c && c ≤ 'F')

def isOctal (c : Char) : Bool :=
  '0' ≤ c && c ≤ '7'

def isBinary (c : Char) : Bool :=
  c == '0' || c == '1'

/-- A code point in braces, after the letter that announces it. -/
def bracedHex : Scan
  | .char '\x7b' :: gs =>
    let n := Glyph.run (Glyph.is isHex) gs
    if 0 < n && (gs.drop n).head? == some (.char '\x7d') then some (n + 2) else none
  | _ => none

/-- An escaped code point: a backslash, the letter and four digits or digits in braces. -/
def codeEscape : Scan
  | .char '\\' :: .char 'u' :: gs =>
    if 4 ≤ Glyph.run (Glyph.is isHex) (gs.take 4) then some 6
    else (bracedHex gs).map (· + 2)
  | _ => none

/-- The glyphs of a name after its first ones; the next `inside` glyphs finish an escape. -/
def nameRest : (inside : Nat) → List Glyph → Nat
  | _, [] => 0
  | k + 1, _ :: gs => 1 + nameRest k gs
  | 0, g :: gs =>
    match codeEscape (g :: gs) with
    | some n => 1 + nameRest (n - 1) gs
    | none => if g.is isNamePart then 1 + nameRest 0 gs else 0

def name : Scan
  | [] => none
  | g :: gs =>
    match codeEscape (g :: gs) with
    | some n => some (1 + nameRest (n - 1) gs)
    | none => if g.is isNameStart then some (1 + nameRest 0 gs) else none

def nameExcept (words : List String) : Scan := fun gs =>
  (name gs).filter fun n => !words.contains (Glyph.text (gs.take n))

/-- The word `w`, not followed by more of a name. -/
def word (w : String) : Scan := fun gs =>
  (name gs).filter fun n => gs.take n = Glyph.ofText w

def continuesWith (cs : List Char) (gs : List Glyph) : Bool :=
  gs.head?.any (Glyph.is cs.contains)

/-- Punctuation, unless one of the barred characters follows it. -/
def mark (cs barred : List Char) : Scan := fun gs =>
  match Glyph.after? cs gs with
  | some rest => if continuesWith barred rest then none else some cs.length
  | none => none

/-- The question mark of a choice; a point right after it belongs to a number. -/
def question : Scan
  | .char '?' :: .char '.' :: g :: _ => if g.is Char.isDigit then some 1 else none
  | .char '?' :: gs => if continuesWith ['?', '.'] gs then none else some 1
  | _ => none

def privateName : Scan
  | .char '#' :: gs => (name gs).map (· + 1)
  | _ => none

def hyphenName : Scan := fun gs =>
  let plain := fun c : Char => (c.isAlphanum || c == '_' || c == '$')
  match gs with
  | .char c :: _ =>
    if c.isAlpha || c == '_' || c == '$' then
      let n := Glyph.run (Glyph.is plain) gs
      if (gs.drop n).head? == some (.char '-') then
        some (Glyph.run (Glyph.is fun c => plain c || c == '-') gs)
      else none
    else none
  | _ => none

/-- Digits with single underscores between them. -/
def digits (p : Char → Bool) : List Glyph → Nat
  | .char '_' :: .char c :: gs => if p c then 2 + digits p gs else 0
  | .char c :: gs => if p c then 1 + digits p gs else 0
  | _ => 0

/-- Digits of which the first is no underscore. -/
def digitRun (p : Char → Bool) (gs : List Glyph) : Nat :=
  if gs.head? == some (.char '_') then 0 else digits p gs

def exponent : List Glyph → Nat
  | .char c :: gs =>
    if c == 'e' || c == 'E' then
      match gs with
      | .char s :: rest =>
        if s == '+' || s == '-' then
          let n := digitRun Char.isDigit rest
          if 0 < n then n + 2 else 0
        else
          let n := digitRun Char.isDigit gs
          if 0 < n then n + 1 else 0
      | _ => 0
    else 0
  | _ => 0

/-- The letter that makes a number a big integer. -/
def bigMark (gs : List Glyph) : Nat :=
  if gs.head? == some (.char 'n') then 1 else 0

/-- Digits in the base that a letter after zero announces. -/
def based (p : Char → Bool) (gs : List Glyph) : Option Nat :=
  let n := digitRun p gs
  if 0 < n then some (2 + n + bigMark (gs.drop n)) else none

/-- Digits, a point and digits, a power of ten; or a big integer. -/
def decimal (gs : List Glyph) : Option Nat :=
  let n := digitRun Char.isDigit gs
  let rest := gs.drop n
  match rest with
  | .char 'n' :: _ => if 0 < n then some (n + 1) else none
  | .char '.' :: fraction =>
    let m := digitRun Char.isDigit fraction
    if 0 < n || 0 < m then some (n + 1 + m + exponent (fraction.drop m)) else none
  | _ => if 0 < n then some (n + exponent rest) else none

def number : Scan := fun gs =>
  match gs with
  | .char '0' :: .char c :: rest =>
    let special :=
      if c == 'x' || c == 'X' then based isHex rest
      else if c == 'o' || c == 'O' then based isOctal rest
      else if c == 'b' || c == 'B' then based isBinary rest
      else none
    special.or (decimal gs)
  | _ => decimal gs

def escape : Scan := fun gs =>
  match gs with
  | .char '\\' :: .char 'u' :: _ => codeEscape gs
  | .char '\\' :: .char 'x' :: rest =>
    if 2 ≤ Glyph.run (Glyph.is isHex) (rest.take 2) then some 4 else none
  | .char '\\' :: .char '\r' :: .char '\n' :: _ => some 3
  | .char '\\' :: .char c :: rest =>
    if isOctal c then some (2 + Glyph.run (Glyph.is isOctal) (rest.take 2)) else some 2
  | .char '\\' :: .stray _ :: _ => some 2
  | _ => none

/-- The glyphs of a string up to and with its closing quote; the next `inside` glyphs finish an
escape. -/
def stringRest (quote : Char) : (inside : Nat) → List Glyph → Option Nat
  | _, [] => none
  | k + 1, _ :: gs => (stringRest quote k gs).map (· + 1)
  | 0, g :: gs =>
    if g == .char '\\' then
      match escape (g :: gs) with
      | some n => (stringRest quote (n - 1) gs).map (· + 1)
      | none => none
    else if g == .char quote then some 1
    else if g.is (fun c => c == '\n' || c == '\r' || c == '\x00') then none
    else (stringRest quote 0 gs).map (· + 1)

/-- A string in double or single quotes on one line. -/
def string : Scan
  | .char '"' :: gs => (stringRest '"' 0 gs).map (· + 1)
  | .char '\'' :: gs => (stringRest '\'' 0 gs).map (· + 1)
  | _ => none

/-- A character reference of markup, such as an ampersand with a name and a semicolon. -/
def reference : Scan
  | .char '&' :: .char '#' :: .char c :: rest =>
    let (n, most, skipped) :=
      if c == 'x' || c == 'X' then (Glyph.run (Glyph.is isHex) rest, 6, 3)
      else (Glyph.run (Glyph.is Char.isDigit) (.char c :: rest), 5, 2)
    let after := if skipped = 3 then rest.drop n else (Glyph.char c :: rest).drop n
    if 0 < n && n ≤ most && after.head? == some (.char ';') then some (skipped + n + 1) else none
  | .char '&' :: gs =>
    let n := Glyph.run (Glyph.is Char.isAlpha) gs
    if 0 < n && n ≤ 30 && (gs.drop n).head? == some (.char ';') then some (n + 2) else none
  | _ => none

/-- The glyphs of an attribute value up to and with its closing quote; the next `inside` glyphs
finish a reference. -/
def attributeRest (quote : Char) : (inside : Nat) → List Glyph → Option Nat
  | _, [] => none
  | k + 1, _ :: gs => (attributeRest quote k gs).map (· + 1)
  | 0, g :: gs =>
    if g == .char '&' && (gs.head?.any (Glyph.is fun c => c == '#' || c.isAlpha)) then
      match reference (g :: gs) with
      | some n => (attributeRest quote (n - 1) gs).map (· + 1)
      | none => none
    else if g == .char quote then some 1
    else if g == .char '\x00' then none
    else (attributeRest quote 0 gs).map (· + 1)

/-- A quoted attribute value; it may span lines and has no escapes but references. -/
def attributeValue : Scan
  | .char '"' :: gs => (attributeRest '"' 0 gs).map (· + 1)
  | .char '\'' :: gs => (attributeRest '\'' 0 gs).map (· + 1)
  | _ => none

/-- Template text up to a substitution, an escape or the end. -/
def templateRun : List Glyph → Nat
  | .char '$' :: .char '\x7b' :: _ => 0
  | .char c :: gs =>
    if c == '\x60' || c == '\\' || c == '\x00' then 0 else 1 + templateRun gs
  | .stray _ :: gs => 1 + templateRun gs
  | [] => 0

def templateText : Scan := fun gs =>
  let n := templateRun gs
  if 0 < n then some n else none

/-- A character class in a regular expression, after its bracket. -/
def classRest : List Glyph → Option Nat
  | .char '\\' :: g :: gs =>
    if g == .char '\n' then none else (classRest gs).map (· + 2)
  | .char ']' :: _ => some 1
  | g :: gs => if g == .char '\n' then none else (classRest gs).map (· + 1)
  | [] => none

/-- The pattern of a regular expression up to and with the closing slash; the next `inside` glyphs
finish an escape or a class. -/
def patternRest : (inside : Nat) → List Glyph → Option Nat
  | _, [] => none
  | k + 1, _ :: gs => (patternRest k gs).map (· + 1)
  | 0, g :: gs =>
    if g == .char '/' then some 1
    else if g == .char '\n' || g == .char '\x00' then none
    else if g == .char '\\' then
      match gs with
      | .char '\n' :: _ => none
      | _ => (patternRest 1 gs).map (· + 1)
    else if g == .char '[' then
      match classRest gs with
      | some n => (patternRest n gs).map (· + 1)
      | none => none
    else (patternRest 0 gs).map (· + 1)

def regex : Scan
  | .char '/' :: .char '/' :: _ => none
  | .char '/' :: .char '*' :: _ => none
  | .char '/' :: gs =>
    (patternRest 0 gs).map fun n =>
      1 + n + Glyph.run (Glyph.is fun c => 'a' ≤ c && c ≤ 'z') (gs.drop n)
  | _ => none

def markupText : Scan := fun gs =>
  let n := Glyph.run (fun g => g != .char '\x00' && g != .char '<' && g != .char '>' &&
    g != .char '\x7b' && g != .char '\x7d' && g != .char '&') gs
  if 0 < n then some n else none

/-- The rest of a comment in slashes and stars, up to and with its end. -/
def commentRest : List Glyph → Option Nat
  | .char '*' :: .char '/' :: _ => some 2
  | g :: gs => if g == .char '\x00' then none else (commentRest gs).map (· + 1)
  | [] => none

/-- Line ends as a comment sees them. -/
def endsLine (c : Char) : Bool :=
  c == '\n' || c == '\r' || c.toNat == 0x2028 || c.toNat == 0x2029 || c == '\x00'

/-- A comment to the end of the line, or between marks. -/
def comment : Scan
  | .char '/' :: .char '/' :: gs => some (2 + Glyph.run (fun g => !g.is endsLine) gs)
  | .char '/' :: .char '*' :: gs => (commentRest gs).map (· + 2)
  | _ => none

/-- A comment as markup opens or closes one; it goes on to the line feed. -/
def markupComment : Scan := fun gs =>
  let isInside := fun g : Glyph => !g.is fun c => endsLine c && c != '\r'
  ["<!--", "-->"].findSome? fun m =>
    (Glyph.after? m.toList gs).map fun rest => m.length + Glyph.run isInside rest

def blank : Scan := fun gs =>
  let n := Glyph.run (Glyph.is isSpace) gs
  if 0 < n then some n else none

/-- The interpreter line that a script may start with. -/
def hashBang : Scan
  | .char '#' :: .char '!' :: gs => some (2 + Glyph.run (fun g => g != .char '\n') gs)
  | _ => none

/-- White space and comments at the start of a text, as leaves, and the text after them. -/
def trivia : Nat → List Glyph → List Tree × List Glyph
  | 0, gs => ([], gs)
  | fuel + 1, gs =>
    match blank gs with
    | some n =>
      let (ts, rest) := trivia fuel (gs.drop n)
      (.leaf ⟨.blank, none⟩ (gs.take n) :: ts, rest)
    | none =>
      match comment gs with
      | some n =>
        let (ts, rest) := trivia fuel (gs.drop n)
        (.leaf ⟨.comment, none⟩ (gs.take n) :: ts, rest)
      | none => ([], gs)

/-- Whether white space among leaves holds a line end. -/
def hasNewline (ts : List Tree) : Bool :=
  ts.any fun t => t.kind == .blank && t.glyphs.contains (.char '\n')

end Survey.Syntax.Lexeme
