import Survey.Syntax.Form

/-!
The rules of the script grammar that refer to each other, and shorthands for its forms.
-/
namespace Survey.Syntax.Grammar

/-- What an expression may end with. Before a colon an arrow function with a type for its result is
tried first, as all of the rest may belong to it, and then left out. -/
inductive Tail where
  | any | untyped
  deriving DecidableEq

/-- The rules that other rules refer to. -/
inductive Rule where
  | statement | block
  | expression (tail : Tail) | expressions (tail : Tail) | unary (tail : Tail) | chain (tail : Tail)
  | primary (tail : Tail) | construction (tail : Tail) | angle (tail : Tail)
  | pattern | parameters | arguments
  | type | unaryType | objectType
  | element
  deriving DecidableEq

abbrev F := Form Rule

def mark (s : String) : F :=
  .lexeme .token (Lexeme.mark s.toList [])

/-- Punctuation that one of the given characters would make into something longer. -/
def markExcept (s barred : String) : F :=
  .lexeme .token (Lexeme.mark s.toList barred.toList)

def word (s : String) : F :=
  .lexeme .token (Lexeme.word s)

def oneOf (ws : List String) : F :=
  .alt (ws.map word)

/-- A part that a word announces. Where it may stand, the word is no name. -/
def announced (w : String) (f : F) : F :=
  .alt [f, .absent (word w)]

def oneMark (ms : List String) : F :=
  .alt (ms.map mark)

def anyName (kind : Kind) : F :=
  .lexeme kind Lexeme.name

/-- A named node that no reader asks for. -/
def part (fs : List F) : F :=
  .node .other (.seq fs)

/-- Items between commas, with a comma after the last one allowed. -/
def list (item : F) : F :=
  .opt (.seq [item, .many (.seq [mark ",", item]), .opt (mark ",")])

/-- At least one item between commas. -/
def list1 (item : F) : F :=
  .seq [item, .many (.seq [mark ",", item])]

/-- Items between commas, any of which may be missing. -/
def sparse (item : F) : F :=
  .seq [.opt item, .many (.seq [mark ",", .opt item])]

/-- A suffix on a tree of any kind. -/
def suffix (kind : Kind) (field : Option Field) (fs : List F) : Growth × F :=
  (⟨[], field, kind⟩, .seq fs)

def string : F :=
  .lexeme .string Lexeme.string

def number : F :=
  .lexeme .other Lexeme.number

def privateName : F :=
  .lexeme .other Lexeme.privateName

def assign : F :=
  markExcept "=" "=>"

/-- Words that cannot be names where an operand is expected. -/
def operandWords : List String :=
  ["await", "class", "delete", "false", "function", "import", "new", "null", "super", "this",
    "true", "typeof", "undefined", "void", "yield"]

def operandName : F :=
  .lexeme .identifier (Lexeme.nameExcept operandWords)

/-- The name of a property: a word, a private name, a string, a number, or a computed one. -/
def propertyName : F :=
  .alt [anyName .other, privateName, string, number,
    part [mark "[", .rule (.expression .any), mark "]"]]

def typeAnnotation : F :=
  part [mark ":", .rule .type]

/-- The value that a declaration or parameter starts with. -/
def initializer : F :=
  .seq [assign, .field .value (.rule (.expression .any))]

def dottedName : F :=
  .grow (anyName .identifier)
    [suffix .member (some .object) [mark ".", .field .property (anyName .other)]]

end Survey.Syntax.Grammar
