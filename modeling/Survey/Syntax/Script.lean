import Survey.Syntax.Grammar.Statements

/-!
Scripts: the two dialects of the grammar and the reading of a whole text.
-/
namespace Survey.Syntax

/-- In a plain script a type in angle brackets before a value asserts its type; in a markup script
angle brackets before a value are tags. -/
inductive Dialect where
  | plain
  | markup
  deriving DecidableEq

/-- A way to read scripts; none where the text breaks the grammar. -/
abbrev Parser := Dialect → List Glyph → Option Tree

namespace Script

open Grammar

/-- A form that nothing satisfies. -/
def nothing : F :=
  .alt []

/-- The form of each rule. -/
def rules (dialect : Dialect) : Rule → F
  | .statement => statement
  | .block => block
  | .expression tail => expression tail
  | .expressions tail => expressions tail
  | .unary tail => unary tail
  | .chain tail => chain tail
  | .primary tail => primary tail
  | .construction tail => construction tail
  | .angle tail =>
    match dialect with
    | .plain => typeAssertion tail
    | .markup => nothing
  | .pattern => pattern
  | .parameters => parameters
  | .arguments => arguments
  | .type => type
  | .unaryType => unaryType
  | .objectType => objectType
  | .element =>
    match dialect with
    | .plain => nothing
    | .markup => element

def parse? : Parser := fun dialect gs =>
  (Form.read? (rules dialect) program gs).map (Tree.node ⟨.program, none⟩)

end Script

end Survey.Syntax
