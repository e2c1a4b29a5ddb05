import Survey.Syntax.Grammar.Types

/-!
Expressions. Binary operators are read as one chain: how they bind does not matter to what is asked
of a tree.
-/
namespace Survey.Syntax.Grammar

/-- The word `async` on the line of what it changes. -/
def async : F :=
  .seq [word "async", .sameLine]

/-- The word `function` and, for a generator, its star. -/
def functionWord : F :=
  .seq [.opt async, word "function"]

def functionExpression : F :=
  .node .functionExpression
    (.seq [functionWord, .opt (.field .name (anyName .identifier)), callSignature, .rule .block])

def generatorExpression : F :=
  part [functionWord, mark "*", .opt (.field .name (anyName .identifier)), callSignature,
    .rule .block]

def arrowBody (tail : Tail) : F :=
  .seq [mark "=>", .alt [.rule .block, .rule (.expression tail)]]

def arrowSignature : Tail → F
  | .any => callSignature
  | .untyped => .seq [.opt typeParameters, .field .parameters (.rule .parameters)]

def arrowFunction (tail : Tail) : F :=
  .node .arrow (.alt [
    .seq [async, .field .parameter operandName, arrowBody tail],
    .seq [.field .parameter operandName, arrowBody tail],
    .seq [.opt async, .ahead (oneMark ["(", "<"]), arrowSignature tail, arrowBody tail]])

/-- A word that changes a member of a class or object, when a name still follows it. -/
def modifier (words : List String) : F :=
  .seq [oneOf words, .absent (oneMark ["(", "=", ";", ":", "?", "!", "<", ",", "\x7d"])]

/-- Words that change a field of a class. -/
def fieldWords : List String :=
  ["public", "private", "protected", "declare", "abstract", "accessor", "static", "override",
    "readonly"]

def fieldModifier : F :=
  modifier fieldWords

def memberModifier : F :=
  .alt [mark "*", modifier (fieldWords ++ ["async", "get", "set"])]

def method : F :=
  part [.many memberModifier, propertyName, .opt (mark "?"), callSignature, .rule .block]

def spread : F :=
  part [mark "...", .rule (.expression .any)]

def objectMember : F :=
  .alt [
    spread,
    .node .pair
      (.seq [.field .key propertyName, mark ":", .field .value (.rule (.expression .any))]),
    method,
    anyName .other]

def object : F :=
  .node .object (.seq [mark "\x7b", sparse objectMember, mark "\x7d"])

def array : F :=
  .node .array (.seq [mark "[", sparse (.alt [spread, .rule (.expression .any)]), mark "]"])

def arguments : F :=
  .node .arguments (.seq [mark "(", sparse (.alt [spread, .rule (.expression .any)]), mark ")"])

/-- Something that can be assigned to: a name with members and subscripts. -/
def target : F :=
  .grow (.alt [operandName, part [word "this"]]) [
    suffix .member (some .object) [mark ".", .alt [anyName .other, privateName]],
    suffix .subscript (some .object) [mark "[", .rule (.expressions .any), mark "]"]]

def withDefault (f : F) : F :=
  .grow f [suffix .other none [assign, .rule (.expression .any)]]

def restPattern : F :=
  part [mark "...", .rule .pattern]

def objectPattern : F :=
  .node .objectPattern (.seq [mark "\x7b",
    sparse (.alt [
      restPattern,
      part [propertyName, mark ":", withDefault (.rule .pattern)],
      withDefault (anyName .other)]),
    mark "\x7d"])

def arrayPattern : F :=
  .node .arrayPattern (.seq [mark "[",
    sparse (.alt [restPattern, withDefault (.rule .pattern)]),
    mark "]"])

def pattern : F :=
  .alt [objectPattern, arrayPattern, target]

def template : F :=
  .node .template (.seq [
    mark "`",
    .many (.alt [
      .here .other Lexeme.templateText,
      .here .other Lexeme.escape,
      part [.here .token (Lexeme.mark "$\x7b".toList []), .rule (.expressions .any), mark "\x7d"]]),
    .here .token (Lexeme.mark "`".toList [])])

def parenthesized : F :=
  .node .parenthesized
    (.seq [mark "(", .rule (.expressions .any), .opt typeAnnotation, mark ")"])

def classHeritage : F :=
  let implementing := .seq [word "implements", list1 (.rule .type)]
  .alt [
    .seq [word "extends",
      list1 (.seq [.rule (.chain .any), .opt typeArguments]), .opt implementing],
    implementing]

def memberEnd (how : Ending) : F :=
  .alt [mark ",", .ending how]

/-- A member with a body, a signature, or a field. -/
def classMember : F :=
  .alt [
    mark ";",
    part [word "static", .rule .block],
    part [.many decorator, .many fieldModifier, indexSignature, memberEnd .plain],
    part [.many decorator, .many memberModifier, propertyName, .opt (mark "?"), callSignature,
      .alt [.rule .block, memberEnd .signature]],
    part [.many decorator, .many fieldModifier, propertyName, .opt (oneMark ["?", "!"]),
      .opt typeAnnotation, .opt initializer, memberEnd .plain]]

def classBody : F :=
  part [mark "\x7b", .many classMember, mark "\x7d"]

/-- The name of a class, which cannot be the word that starts its heritage. -/
def className : F :=
  .lexeme .other (Lexeme.nameExcept ["extends", "implements"])

def classRest : F :=
  .seq [.opt typeParameters, .opt classHeritage, classBody]

def classExpression : F :=
  part [.many decorator, word "class", .opt (.field .name className), classRest]

/-- The word `import` as a function, or what is known of the module itself. -/
def importOperand : F :=
  .alt [
    .seq [.lexeme .importWord (Lexeme.word "import"), .ahead (mark "(")],
    part [word "import", mark ".", anyName .other]]

def constantWord : F :=
  part [oneOf ["this", "super", "true", "false", "null", "undefined"]]

def assignedPattern : F :=
  .seq [.alt [objectPattern, arrayPattern], .ahead assign]

def primary (tail : Tail) : F :=
  .alt [
    arrowFunction tail, functionExpression, generatorExpression, assignedPattern,
    operandName, constantWord, string, number, template,
    parenthesized, array, object, classExpression,
    .rule (.construction tail), importOperand,
    .lexeme .other Lexeme.regex,
    .rule .element]

def memberSuffix : Growth × F :=
  suffix .member (some .object)
    [.alt [mark "?.", markExcept "." "."],
      .field .property (.alt [anyName .other, privateName])]

def subscriptSuffix : Growth × F :=
  suffix .subscript (some .object)
    [.opt (mark "?."), mark "[", .rule (.expressions .any), mark "]"]

def nonNullSuffix : Growth × F :=
  suffix .nonNull none [.sameLine, markExcept "!" "="]

def construction (tail : Tail) : F :=
  .alt [
    part [word "new", mark ".", word "target"],
    .node .construction (.seq [word "new",
      .field .constructed
        (.grow (.rule (.primary tail)) [memberSuffix, subscriptSuffix, nonNullSuffix]),
      .opt typeArguments, .opt (.field .arguments (.rule .arguments))])]

def assignmentMarks : F :=
  .alt (assign :: ["+=", "-=", "*=", "/=", "%=", "^=", "&=", "|=", ">>=", ">>>=", "<<=", "**=",
    "&&=", "||=", "??="].map mark)

/-- Members, subscripts, calls, updates and assignments. -/
def chainSuffixes (tail : Tail) : List (Growth × F) :=
  [memberSuffix, subscriptSuffix,
    suffix .call (some .function)
      [.opt (mark "?."), .opt typeArguments, .field .arguments (.rule .arguments)],
    suffix .call (some .function) [.opt typeArguments, .field .arguments template],
    nonNullSuffix,
    suffix .other none
      [typeArguments, .ahead (.alt [oneMark [")", "]", ",", ";", ":", "\x7d", ".", "?."], .finish])],
    suffix .other none [.sameLine, oneMark ["++", "--"]],
    (⟨[.identifier, .member, .subscript, .parenthesized, .nonNull, .objectPattern, .arrayPattern],
        none, .other⟩,
      .seq [assignmentMarks, .rule (.expression tail)])]

def chain (tail : Tail) : F :=
  .grow (.rule (.primary tail)) (chainSuffixes tail)

def unary (tail : Tail) : F :=
  .alt [
    part [.alt [oneMark ["++", "--", "!", "~", "+", "-"],
        oneOf ["typeof", "void", "delete", "await"]], .rule (.unary tail)],
    part [word "yield",
      .alt [
        .seq [mark "*", .rule (.expression tail)],
        .opt (.seq [.sameLine, .rule (.expression tail)])]],
    part [privateName, word "in", .rule (.unary tail)],
    .rule (.chain tail),
    .rule (.angle tail)]

def binaryMark : F :=
  .alt [oneMark ["===", "!==", "==", "!="],
    markExcept "**" "=", markExcept "<<" "=", markExcept ">>>" "=", markExcept ">>" ">=",
    mark "<=", mark ">=", mark "<", mark ">",
    markExcept "&&" "=", markExcept "||" "=", markExcept "??" "=",
    markExcept "&" "&=", markExcept "|" "|=", markExcept "^" "=",
    markExcept "+" "+=", markExcept "-" "-=", markExcept "*" "*=", markExcept "/" "=",
    markExcept "%" "=",
    word "instanceof", word "in"]

def question : F :=
  .lexeme .token Lexeme.question

/-- A chain of operators, types asserted with a word, and choices. -/
def expression (tail : Tail) : F :=
  .grow (.rule (.unary tail)) [
    suffix .other none [binaryMark, .rule (.unary tail)],
    suffix .other none [word "as", .alt [word "const", .rule .type]],
    suffix .other none [word "satisfies", .rule .type],
    suffix .other none [question, .rule (.expression .any), mark ":", .rule (.expression tail)],
    suffix .other none [question, .rule (.expression .untyped), mark ":", .rule (.expression tail)]]

def expressions (tail : Tail) : F :=
  .grow (.rule (.expression tail)) [suffix .other none [mark ",", .rule (.expression tail)]]

/-- A type in angle brackets before a value. -/
def typeAssertion (tail : Tail) : F :=
  part [typeArguments, .rule (.unary tail)]

end Survey.Syntax.Grammar
