import Survey.Syntax.Grammar.Expressions

/-!
Markup in scripts: tags with attributes, text and embedded expressions.
-/
namespace Survey.Syntax.Grammar

def markupName : F :=
  .alt [.lexeme .identifier Lexeme.hyphenName, anyName .identifier]

/-- The name of a tag: a name, names joined by points, or two names with a colon. -/
def tagName : F :=
  .alt [
    part [markupName, mark ":", markupName],
    .grow markupName
      [suffix .member (some .object) [mark ".", .field .property (anyName .other)]]]

/-- An expression in braces; it may be missing. -/
def embedded : F :=
  part [mark "\x7b", .opt (.alt [spread, .rule (.expressions .any)]), mark "\x7d"]

def tagAttribute : F :=
  .alt [
    part [
      .alt [part [markupName, mark ":", markupName], markupName],
      .opt (.seq [mark "=",
        .alt [.lexeme .string Lexeme.attributeValue, embedded, .rule .element]])],
    embedded]

def openingTag : F :=
  .node .openingTag (.seq [mark "<",
    .opt (.seq [.field .name tagName, .opt typeArguments, .many tagAttribute]),
    mark ">"])

def closingTag : F :=
  part [mark "</", .opt tagName, mark ">"]

def selfClosingTag : F :=
  .node .selfClosingTag (.seq [mark "<", .field .name tagName, .opt typeArguments,
    .many tagAttribute, mark "/>"])

def markupChild : F :=
  .alt [
    .here .other Lexeme.markupText,
    .here .other Lexeme.reference,
    .here .comment Lexeme.markupComment,
    .rule .element, embedded]

/-- A tag that closes itself, or two tags with what stands between them. -/
def element : F :=
  .alt [selfClosingTag, part [openingTag, .many markupChild, closingTag]]

end Survey.Syntax.Grammar
