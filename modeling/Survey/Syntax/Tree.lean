import Survey.Syntax.Glyph

/-!
Syntax trees that keep every glyph of the source: white space, comments and punctuation are leaves
like all others, so the text of a tree is the text of its leaves in order.
-/
namespace Survey.Syntax

/-- What a node of a tree is. Nodes that no reader of trees asks for are `other`. -/
inductive Kind where
  | program | blank | comment | hashBang | token | other
  | identifier | string | template | parenthesized | object | array | pair
  | arrayPattern | objectPattern
  | member | subscript | nonNull | call | arguments | construction | importWord
  | arrow | functionExpression
  | expressionStatement | importStatement | importClause | namespaceImport | namedImports
  | importSpecifier | exportStatement | exportClause | exportSpecifier | namespaceExport
  | functionDeclaration | generatorDeclaration | functionSignature
  | classDeclaration | abstractClass | interfaceDeclaration | typeAlias | enumDeclaration
  | lexicalDeclaration | variableDeclaration | declarator
  | openingTag | selfClosingTag
  deriving DecidableEq

/-- White space and punctuation have no name of their own in the grammar. -/
def Kind.isNamed : Kind → Bool
  | .blank | .token => false
  | _ => true

/-- White space and comments may stand between any two tokens. -/
def Kind.isTrivia : Kind → Bool
  | .blank | .comment => true
  | _ => false

inductive Field where
  | name | rename | source | declaration | value | parameters | parameter | returnType
  | function | arguments | constructed | object | property | key
  deriving DecidableEq

/-- The kind of a node and its part in the parent. -/
structure Label where
  kind : Kind
  field : Option Field := none
  deriving DecidableEq

inductive Tree where
  | leaf (label : Label) (glyphs : List Glyph)
  | node (label : Label) (children : List Tree)

namespace Tree

def label : Tree → Label
  | .leaf l _ => l
  | .node l _ => l

def kind (t : Tree) : Kind :=
  t.label.kind

def children : Tree → List Tree
  | .leaf _ _ => []
  | .node _ ts => ts

def withField (f : Field) : Tree → Tree
  | .leaf l gs => .leaf { l with field := some f } gs
  | .node l ts => .node { l with field := some f } ts

mutual

def glyphs : Tree → List Glyph
  | .leaf _ gs => gs
  | .node _ ts => glyphsOf ts

def glyphsOf : List Tree → List Glyph
  | [] => []
  | t :: ts => t.glyphs ++ glyphsOf ts

end

/-- The text of a tree; empty where a byte belongs to no character. -/
def text (t : Tree) : String :=
  Glyph.text t.glyphs

mutual

/-- A tree and all trees below it, parents before children. -/
def subtrees : Tree → List Tree
  | .leaf l gs => [.leaf l gs]
  | .node l ts => .node l ts :: subtreesOf ts

def subtreesOf : List Tree → List Tree
  | [] => []
  | t :: ts => t.subtrees ++ subtreesOf ts

end

/-- The children that have a kind of their own, comments included. -/
def named (t : Tree) : List Tree :=
  t.children.filter fun c => c.kind.isNamed

/-- The first child that plays the part `f`. -/
def child? (f : Field) (t : Tree) : Option Tree :=
  t.children.find? fun c => c.label.field == some f

def hasToken (s : String) (t : Tree) : Bool :=
  t.children.any fun c => c.kind == .token && c.text == s

end Tree

end Survey.Syntax
