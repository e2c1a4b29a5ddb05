import Survey.Syntax.Lexeme

/-!
Grammar forms as data and their reading. A form is tried at a place of the text and gives the trees
it reads there; choices are ordered, and the first that reads wins. White space and comments before
a token are read with it, and belong to the innermost node with tokens on both sides of them.
-/
namespace Survey.Syntax

/-- How a statement ends where no semicolon is written. -/
inductive Ending where
  | plain
  /-- A brace on the next line is the body of what is read. -/
  | signature
  deriving DecidableEq

/-- How a tree that was read becomes the first part of a larger one. -/
structure Growth where
  /-- The kinds that can grow; all of them when the list is empty. -/
  on : List Kind
  /-- The part that the tree plays in the larger one. -/
  field : Option Field
  kind : Kind

def Growth.admits (g : Growth) (k : Kind) : Bool :=
  g.on.isEmpty || g.on.contains k

/-- A form of the grammar over rules named by `ρ`. -/
inductive Form (ρ : Type) where
  /-- A lexeme after white space and comments. -/
  | lexeme (kind : Kind) (scan : Lexeme.Scan)
  /-- A lexeme right here. -/
  | here (kind : Kind) (scan : Lexeme.Scan)
  | seq (parts : List (Form ρ))
  | alt (choices : List (Form ρ))
  | many (item : Form ρ)
  | opt (item : Form ρ)
  | rule (r : ρ)
  | node (kind : Kind) (body : Form ρ)
  | field (part : Field) (item : Form ρ)
  /-- A tree that grows by suffixes for as long as one can be read. -/
  | grow (base : Form ρ) (suffixes : List (Growth × Form ρ))
  /-- The form could be read here; nothing is. -/
  | ahead (item : Form ρ)
  /-- The form could not be read here; nothing is. -/
  | absent (item : Form ρ)
  /-- No line ends before the next token. -/
  | sameLine
  /-- The end of a statement, with or without a semicolon. -/
  | ending (how : Ending)
  /-- The end of the text. -/
  | finish

namespace Form

/-- The last tree takes a part in its parent. -/
def markLast (part : Field) : List Tree → List Tree
  | [] => []
  | [t] => [t.withField part]
  | t :: ts => t :: markLast part ts

/-- The trees as one node; white space and comments before its first token stay outside. -/
def wrap (kind : Kind) (ts : List Tree) : List Tree :=
  ts.takeWhile (fun t => t.kind.isTrivia) ++
    [.node ⟨kind, none⟩ (ts.dropWhile fun t => t.kind.isTrivia)]

def join (g : Growth) (t : Tree) (ts : List Tree) : Tree :=
  .node ⟨g.kind, none⟩ ((match g.field with | some f => t.withField f | none => t) :: ts)

/-- Whether the word `in` or `instanceof` stands here. -/
def startsRelation (gs : List Glyph) : Bool :=
  ["in", "instanceof"].any fun w =>
    match Glyph.after? w.toList gs with
    | some rest => !rest.head?.any (Glyph.is Char.isAlpha)
    | none => false

/-- Whether a statement can end before `gs` when a line ended there. -/
def endsBefore (how : Ending) (gs : List Glyph) : Bool :=
  match gs with
  | .char c :: rest =>
    if "`,.;*%><=?^|&/:".toList.contains c then false
    else if c == '\x7b' then how != .signature
    else if c == '+' || c == '-' then Lexeme.continuesWith [c] rest
    else if c == '!' then !Lexeme.continuesWith ['='] rest
    else !startsRelation gs
  | _ => true

/-- Whether a statement can end here without a semicolon. -/
def endsHere (how : Ending) (between : List Tree) (gs : List Glyph) : Bool :=
  match gs with
  | [] => true
  | .char '\x7d' :: _ => true
  | _ => Lexeme.hasNewline between && endsBefore how gs

variable {ρ : Type}

mutual

def run (rules : ρ → Form ρ) : Nat → Form ρ → List Glyph → Option (List Tree × List Glyph)
  | 0, _, _ => none
  | fuel + 1, form, gs =>
    match form with
    | .lexeme kind scan =>
      let (lead, rest) := Lexeme.trivia fuel gs
      match scan rest with
      | some n => some (lead ++ [.leaf ⟨kind, none⟩ (rest.take n)], rest.drop n)
      | none => none
    | .here kind scan =>
      match scan gs with
      | some n => some ([.leaf ⟨kind, none⟩ (gs.take n)], gs.drop n)
      | none => none
    | .seq parts =>
      parts.foldlM (fun (made, rest) part =>
        (run rules fuel part rest).map fun (ts, after) => (made ++ ts, after)) ([], gs)
    | .alt choices => choices.findSome? fun choice => run rules fuel choice gs
    | .many item =>
      match run rules fuel item gs with
      | none => some ([], gs)
      | some (ts, rest) =>
        (run rules fuel (.many item) rest).map fun (more, after) => (ts ++ more, after)
    | .opt item => (run rules fuel item gs).or (some ([], gs))
    | .rule r => run rules fuel (rules r) gs
    | .node kind body => (run rules fuel body gs).map fun (ts, rest) => (wrap kind ts, rest)
    | .field part item =>
      (run rules fuel item gs).map fun (ts, rest) => (markLast part ts, rest)
    | .grow base suffixes =>
      match run rules fuel base gs with
      | none => none
      | some (ts, rest) =>
        match ts.getLast? with
        | none => some (ts, rest)
        | some t =>
          let (grown, after) := growFrom rules fuel suffixes t rest
          some (ts.dropLast ++ [grown], after)
    | .ahead item => (run rules fuel item gs).map fun _ => ([], gs)
    | .absent item =>
      match run rules fuel item gs with
      | some _ => none
      | none => some ([], gs)
    | .sameLine => if Lexeme.hasNewline (Lexeme.trivia fuel gs).1 then none else some ([], gs)
    | .ending how =>
      let (lead, rest) := Lexeme.trivia fuel gs
      match rest with
      | .char ';' :: after => some (lead ++ [.leaf ⟨.token, none⟩ [.char ';']], after)
      | _ => if endsHere how lead rest then some ([], gs) else none
    | .finish =>
      match Lexeme.trivia fuel gs with
      | (lead, []) => some (lead, [])
      | _ => none

/-- Let a tree grow by suffixes. -/
def growFrom (rules : ρ → Form ρ) :
    Nat → List (Growth × Form ρ) → Tree → List Glyph → Tree × List Glyph
  | 0, _, t, gs => (t, gs)
  | fuel + 1, suffixes, t, gs =>
    let step := suffixes.findSome? fun (growth, suffix) =>
      if growth.admits t.kind then
        (run rules fuel suffix gs).map fun (ts, rest) => (join growth t ts, rest)
      else none
    match step with
    | some (grown, rest) => growFrom rules fuel suffixes grown rest
    | none => (t, gs)

end

def read? (rules : ρ → Form ρ) (form : Form ρ) (gs : List Glyph) : Option (List Tree) :=
  (run rules (400 * (gs.length + 2)) form gs).map Prod.fst

end Form

end Survey.Syntax
