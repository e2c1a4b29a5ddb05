import Survey.Yaml.Scalar

/-!
The tokens of a YAML text. Indentation opens and closes block collections; a key is recognised by
the colon that follows it on its line.
-/
namespace Survey.Yaml

inductive Token where
  | streamEnd
  | version (major minor : Nat)
  | tagHandle (handle value : String)
  | documentStart
  | documentEnd
  | blockSequence
  | blockMapping
  | blockEnd
  | flowSequence
  | flowSequenceEnd
  | flowMapping
  | flowMappingEnd
  | entry
  | flowEntry
  | key
  | value
  | reference (name : String)
  | anchor (name : String)
  | tag (handle suffix : String)
  | scalar (text : String) (style : Style)
  deriving DecidableEq

/-- A place where a key may begin. -/
structure KeyPlace where
  /-- The number of tokens before it. -/
  number : Nat
  cursor : Cursor
  /-- Whether nothing but a key can stand there. -/
  isRequired : Bool

structure Scanner where
  cursor : Cursor
  /-- The tokens, the last first. -/
  tokens : List Token := []
  /-- The column of the innermost block collection. -/
  indent : Int := -1
  /-- The columns of the block collections around it. -/
  outerIndents : List Int := []
  keyPlace : Option KeyPlace := none
  /-- The places outside the brackets that are open. -/
  outerKeyPlaces : List (Option KeyPlace) := []
  keyAllowed : Bool := true

namespace Scanner

def inFlow (s : Scanner) : Bool :=
  !s.outerKeyPlaces.isEmpty

def emit (s : Scanner) (t : Token) : Scanner :=
  { s with tokens := t :: s.tokens }

def insertAt (s : Scanner) (number : Nat) (t : Token) : Scanner :=
  { s with tokens := s.tokens.insertIdx (s.tokens.length - number) t }

/-- A block collection opened at a column, where none is open that far in. -/
def roll (s : Scanner) (column number : Nat) (t : Token) : Scanner :=
  if s.inFlow || s.indent ≥ column then s
  else
    { s.insertAt number t with indent := column, outerIndents := s.indent :: s.outerIndents }

/-- How many block collections end at a column, and those that stay. -/
def unrolled (column indent : Int) : List Int → Nat × Int × List Int
  | [] => (0, indent, [])
  | outer :: rest =>
    if indent > column then
      let (n, i, r) := unrolled column outer rest
      (n + 1, i, r)
    else (0, indent, outer :: rest)

/-- The block collections closed that begin behind a column. -/
def unroll (s : Scanner) (column : Int) : Scanner :=
  if s.inFlow then s
  else
    let (n, indent, outerIndents) := unrolled column s.indent s.outerIndents
    { s with tokens := List.replicate n .blockEnd ++ s.tokens, indent, outerIndents }

/-- No key place any more; a required one must not be lost. -/
def dropKey (s : Scanner) : Option Scanner :=
  if s.keyPlace.any KeyPlace.isRequired then none else some { s with keyPlace := none }

/-- A key place here, where keys are allowed. -/
def saveKey (s : Scanner) : Option Scanner :=
  if s.keyAllowed then do
    let s ← s.dropKey
    let isRequired := !s.inFlow && s.indent = s.cursor.column
    return { s with keyPlace := some ⟨s.tokens.length, s.cursor, isRequired⟩ }
  else some s

def isStale (s : Scanner) (k : KeyPlace) : Bool :=
  k.cursor.line < s.cursor.line || k.cursor.index + 1024 < s.cursor.index

/-- Without the key places that came to nothing. -/
def dropStale (s : Scanner) : Option Scanner :=
  let places := s.keyPlace :: s.outerKeyPlaces
  if places.any fun k => k.any fun k => s.isStale k && k.isRequired then none
  else
    let fresh := fun k : Option KeyPlace => k.filter fun k => !s.isStale k
    some { s with keyPlace := fresh s.keyPlace, outerKeyPlaces := s.outerKeyPlaces.map fresh }

/-- Past white space and comments. Tabs count where no key can begin. -/
def skipSpace (s : Scanner) : Nat → Scanner
  | 0 => s
  | n + 1 =>
    let isFiller := fun ch => ch = ' ' || ((s.inFlow || !s.keyAllowed) && ch = '\t')
    let c := s.cursor.skipWhile isFiller
    let c := if c.isAt '#' then c.skipWhile (fun ch => !isBreak ch) else c
    match c.break? with
    | some (_, next) => skipSpace { s with cursor := next, keyAllowed := s.keyAllowed || !s.inFlow } n
    | none => { s with cursor := c }

def move (s : Scanner) (n : Nat) : Scanner :=
  { s with cursor := s.cursor.skip n }

/-! ## Tokens of several characters -/

def name? (c : Cursor) : Option (String × Cursor) :=
  let name := (c.rest.drop 1).takeWhile isNameChar
  let next := c.skip (name.length + 1)
  let endsWell := atGap next.rest || next.rest.head?.any fun ch =>
    ['?', ':', ',', ']', '\x7d', '%', '@', '\x60'].contains ch
  if name.isEmpty || !endsWell then none else some (String.ofList name, next)

/-- The characters of the names of tags. -/
def isTagChar (isVerbatim : Bool) (c : Char) : Bool :=
  isNameChar c || ";/?:@&=+$.!~*'()%".toList.contains c || (isVerbatim && ",[]".toList.contains c)

/-- A tag: its handle, the rest of it, and the place behind. -/
def tag? (inFlow : Bool) (c : Cursor) : Option (String × String × Cursor) := do
  let (handle, suffix, next) ←
    match c.rest with
    | '!' :: '<' :: rest =>
      let uri := rest.takeWhile (isTagChar true)
      let next := c.skip (uri.length + 2)
      if uri.isEmpty || !next.isAt '>' then none else some ("", uri, next.skip 1)
    | '!' :: rest =>
      let word := rest.takeWhile isNameChar
      let behind := rest.drop word.length
      if behind.head? = some '!' then
        let uri := (behind.drop 1).takeWhile (isTagChar false)
        let handle := "!" ++ String.ofList word ++ "!"
        if uri.isEmpty then none else some (handle, uri, c.skip (word.length + uri.length + 2))
      else
        let uri := rest.takeWhile (isTagChar false)
        if uri.isEmpty then some ("", ['!'], c.skip 1) else some ("!", uri, c.skip (uri.length + 1))
    | _ => none
  if atGap next.rest || (inFlow && next.isAt ',') then
    some (handle, String.ofList suffix, next)
  else none

def digits? (c : Cursor) : Option (Nat × Cursor) :=
  let digits := c.rest.takeWhile Char.isDigit
  if digits.isEmpty || 9 < digits.length then none
  else some (digits.foldl (fun n d => 10 * n + (d.toNat - '0'.toNat)) 0, c.skip digits.length)

def directive? (c : Cursor) : Option (Token × Cursor) := do
  let name := (c.rest.drop 1).takeWhile isNameChar
  let next := (c.skip (name.length + 1))
  if name.isEmpty || !atGap next.rest then none
  else
    let next := next.skipWhile isSpace
    let (token, next) ←
      if name = "YAML".toList then do
        let (major, next) ← digits? next
        if !next.isAt '.' then none
        else
          let (minor, next) ← digits? (next.skip 1)
          some (Token.version major minor, next)
      else if name = "TAG".toList then
        match next.rest with
        | '!' :: rest =>
          let word := rest.takeWhile isNameChar
          let closed := (rest.drop word.length).head? = some '!'
          let size := if closed then word.length + 2 else word.length + 1
          let handle := next.rest.take size
          let behind := next.skip size
          let value := behind.skipWhile isSpace
          let uri := value.rest.takeWhile (isTagChar true)
          let after := value.skip uri.length
          if (!closed && !word.isEmpty) || !behind.rest.head?.any isSpace || uri.isEmpty ||
              !atGap after.rest then none
          else some (Token.tagHandle (String.ofList handle) (String.ofList uri), after)
        | _ => none
      else none
    let next ← endLine? next
    some (token, next)

/-! ## One token -/

def documentMark (s : Scanner) (t : Token) : Option Scanner := do
  let s ← (s.unroll (-1)).dropKey
  return ({ s with keyAllowed := false }.move 3).emit t

def openFlow (s : Scanner) (t : Token) : Option Scanner := do
  let s ← s.saveKey
  let outerKeyPlaces := s.keyPlace :: s.outerKeyPlaces
  return ({ s with keyAllowed := true, keyPlace := none, outerKeyPlaces }.move 1).emit t

def closeFlow (s : Scanner) (t : Token) : Option Scanner := do
  let s ← s.dropKey
  let (keyPlace, outerKeyPlaces) :=
    match s.outerKeyPlaces with
    | [] => (none, [])
    | k :: ks => (k, ks)
  return ({ s with keyAllowed := false, keyPlace, outerKeyPlaces }.move 1).emit t

def flowEntry (s : Scanner) : Option Scanner := do
  let s ← s.dropKey
  return ({ s with keyAllowed := true }.move 1).emit .flowEntry

def blockEntry (s : Scanner) : Option Scanner := do
  if !s.inFlow && !s.keyAllowed then none
  else
    let s ← (s.roll s.cursor.column s.tokens.length .blockSequence).dropKey
    return ({ s with keyAllowed := true }.move 1).emit .entry

def explicitKey (s : Scanner) : Option Scanner := do
  if !s.inFlow && !s.keyAllowed then none
  else
    let s ← (s.roll s.cursor.column s.tokens.length .blockMapping).dropKey
    return ({ s with keyAllowed := !s.inFlow }.move 1).emit .key

/-- A colon: the key is what began at the key place, or else an explicit one. -/
def valueMark (s : Scanner) : Option Scanner :=
  match s.keyPlace with
  | some k =>
    let s := (s.insertAt k.number .key).roll k.cursor.column k.number .blockMapping
    some (({ s with keyPlace := none, keyAllowed := false }.move 1).emit .value)
  | none =>
    if !s.inFlow && !s.keyAllowed then none
    else
      let s := s.roll s.cursor.column s.tokens.length .blockMapping
      some (({ s with keyAllowed := !s.inFlow }.move 1).emit .value)

def scalarToken (s : Scanner) (style : Style) (r : Reading) : Scanner :=
  { s with cursor := r.cursor, keyAllowed := r.brokeLine }.emit (.scalar (String.ofList r.text) style)

def named (s : Scanner) (token : String → Token) : Option Scanner := do
  let s ← s.saveKey
  let (name, next) ← name? s.cursor
  return { s with cursor := next, keyAllowed := false }.emit (token name)

def tagToken (s : Scanner) : Option Scanner := do
  let s ← s.saveKey
  let (handle, suffix, next) ← tag? s.inFlow s.cursor
  return { s with cursor := next, keyAllowed := false }.emit (.tag handle suffix)

def blockToken (s : Scanner) (isLiteral : Bool) : Option Scanner := do
  let s ← s.dropKey
  let r ← block isLiteral s.indent s.cursor
  return s.scalarToken (if isLiteral then .literal else .folded) { r with brokeLine := true }

def quotedToken (s : Scanner) (quote : Char) : Option Scanner := do
  let s ← s.saveKey
  let r ← quotedScalar quote s.cursor
  return s.scalarToken (if quote = '"' then .double else .single) r

def plainToken (s : Scanner) : Option Scanner := do
  let s ← s.saveKey
  let r ← plain s.inFlow (s.indent + 1) s.cursor
  return s.scalarToken .plain r

/-- Whether a plain scalar can begin with a character before a rest. -/
def startsPlain (s : Scanner) (c : Char) (rest : List Char) : Bool :=
  !"-?:,[]\x7b\x7d#&*!|>'\"%@\x60".toList.contains c ||
    (c = '-' && !rest.head?.any isSpace) ||
    (!s.inFlow && (c = '?' || c = ':') && !atGap rest)

/-- The next token; none where none can stand. -/
def next (s : Scanner) : Option Scanner := do
  let s := s.skipSpace (s.cursor.rest.length + 1)
  let s ← s.dropStale
  let s := s.unroll s.cursor.column
  match s.cursor.rest with
  | [] =>
    let s ← (s.unroll (-1)).dropKey
    return s.emit .streamEnd
  | c :: rest =>
    if s.cursor.column = 0 && c = '%' then
      let s ← (s.unroll (-1)).dropKey
      let (token, cursor) ← directive? s.cursor
      return { s with cursor, keyAllowed := false }.emit token
    else if s.cursor.atMark ['-', '-', '-'] then s.documentMark .documentStart
    else if s.cursor.atMark ['.', '.', '.'] then s.documentMark .documentEnd
    else if c = '[' then s.openFlow .flowSequence
    else if c = '\x7b' then s.openFlow .flowMapping
    else if c = ']' then s.closeFlow .flowSequenceEnd
    else if c = '\x7d' then s.closeFlow .flowMappingEnd
    else if c = ',' then s.flowEntry
    else if c = '-' && atGap rest then s.blockEntry
    else if c = '?' && (s.inFlow || atGap rest) then s.explicitKey
    else if c = ':' && (s.inFlow || atGap rest) then s.valueMark
    else if c = '*' then s.named .reference
    else if c = '&' then s.named .anchor
    else if c = '!' then s.tagToken
    else if c = '|' && !s.inFlow then s.blockToken true
    else if c = '>' && !s.inFlow then s.blockToken false
    else if c = '\'' || c = '"' then s.quotedToken c
    else if s.startsPlain c rest then s.plainToken
    else none

/-- All tokens, by at most `n` steps. -/
def all : Nat → Scanner → Option (List Token)
  | 0, _ => none
  | n + 1, s => do
    let s ← s.next
    if s.tokens.head? = some .streamEnd then some s.tokens.reverse else all n s

end Scanner

def tokens? (text : String) : Option (List Token) :=
  let chars :=
    match text.toList with
    | '\ufeff' :: rest => rest
    | chars => chars
  if chars.all isAllowed then Scanner.all (chars.length + 2) { cursor := ⟨chars, 0, 0, 0⟩ } else none

end Survey.Yaml
