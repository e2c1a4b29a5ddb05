import Survey.Syntax.Grammar.Basic

/-!
Types, type parameters and the parameters of functions.
-/
namespace Survey.Syntax.Grammar

def typeArguments : F :=
  part [markExcept "<" "<=", list1 (.rule .type), .opt (mark ","), mark ">"]

/-- A decorator: a name, a member, a call of either, or an expression in parentheses. -/
def decorator : F :=
  part [mark "@",
    .alt [
      part [mark "(", .rule (.expressions .any), mark ")"],
      .grow dottedName
        [(⟨[.identifier, .member], some .function, .call⟩,
          .seq [.opt typeArguments, .field .arguments (.rule .arguments)])]]]

def typeParameter : F :=
  part [.many (.seq [oneOf ["const", "in", "out"], .ahead (anyName .other)]),
    anyName .other,
    .opt (.seq [word "extends", .rule .type]),
    .opt (.seq [mark "=", .rule .type])]

def typeParameters : F :=
  part [mark "<", list1 typeParameter, .opt (mark ","), mark ">"]

/-- The result of a function that tells the type of a parameter. -/
def typePredicate : F :=
  .alt [
    part [word "asserts", anyName .other, .opt (.seq [word "is", .rule .type])],
    part [anyName .other, word "is", .rule .type]]

def returnAnnotation : F :=
  part [mark ":", .alt [typePredicate, .rule .type]]

def callSignature : F :=
  .seq [.opt typeParameters, .field .parameters (.rule .parameters),
    .opt (.field .returnType returnAnnotation)]

/-- A word that changes a parameter, when a name still follows it. -/
def parameterModifier : F :=
  .seq [oneOf ["public", "private", "protected", "override", "readonly"],
    .absent (oneMark [",", ")", ":", "=", "?"])]

def parameter : F :=
  part [.many decorator, .many parameterModifier,
    .alt [
      part [mark "...", .rule .pattern],
      .rule .pattern,
      word "this"],
    .opt (mark "?"), .opt typeAnnotation, .opt initializer]

def parameters : F :=
  part [mark "(", list parameter, mark ")"]

def indexSignature : F :=
  let sign := .opt (oneMark ["+", "-"])
  .seq [.opt (.seq [sign, word "readonly"]), mark "[",
    .alt [
      .seq [anyName .other, mark ":", .rule .type],
      .seq [anyName .other, word "in", .rule .type,
        .opt (.seq [word "as", .rule .type])]],
    mark "]", .opt (.seq [sign, mark "?"]), .opt typeAnnotation]

/-- A word that changes a member of an object type, when a name still follows it. -/
def signatureModifier : F :=
  .seq [oneOf ["public", "private", "protected", "static", "override", "readonly", "async",
      "get", "set"],
    .absent (oneMark ["(", ":", "?", "<", ",", ";", "\x7d"]), .sameLine]

def typeMember : F :=
  .alt [
    part [indexSignature],
    part [callSignature],
    part [.opt (word "abstract"), word "new", callSignature],
    part [.many signatureModifier, .opt (mark "*"), propertyName, .opt (mark "?"),
      .alt [callSignature, .opt typeAnnotation]]]

/-- Members between braces, each ended by a comma, a semicolon or a line end. -/
def objectType : F :=
  part [mark "\x7b", .opt (oneMark [",", ";"]),
    .many (.seq [typeMember, .alt [mark ",", .ending .plain]]),
    mark "\x7d"]

def tupleElement : F :=
  let labelled := .seq [anyName .other, .opt (mark "?"), mark ":", .rule .type]
  .alt [
    part [mark "...", .alt [labelled, .rule .type]],
    part [labelled],
    .seq [.rule .type, .opt (mark "?")]]

def functionType : F :=
  part [.opt typeParameters, .rule .parameters, mark "=>", .alt [typePredicate, .rule .type]]

def constructorType : F :=
  part [.opt (word "abstract"), word "new", .opt typeParameters, .rule .parameters, mark "=>",
    .rule .type]

def importType : F :=
  part [
    .node .call (.seq [.field .function (.lexeme .importWord (Lexeme.word "import")),
      .field .arguments (.rule .arguments)]),
    .many (.seq [mark ".", anyName .other]), .opt typeArguments]

def typeQuery : F :=
  part [word "typeof",
    .alt [
      importType,
      .seq [anyName .other,
        .many (.seq [oneMark ["?.", "."], .alt [anyName .other, privateName]]),
        .opt typeArguments]]]

def templateType : F :=
  .node .template (.seq [
    mark "`",
    .many (.alt [
      .here .other Lexeme.templateText,
      .here .other Lexeme.escape,
      part [.here .token (Lexeme.mark "$\x7b".toList []), .rule .type, mark "\x7d"]]),
    .here .token (Lexeme.mark "`".toList [])])

/-- Words that start a type and so name none. -/
def typeWords : List String :=
  ["abstract", "import", "infer", "keyof", "new", "readonly", "typeof", "unique"]

def typeName : F :=
  part [.lexeme .other (Lexeme.nameExcept typeWords), .many (.seq [mark ".", anyName .other]), .opt typeArguments]

def primaryType : F :=
  .alt [
    functionType,
    part [mark "(", .rule .type, mark ")"],
    .rule .objectType,
    part [mark "[", list tupleElement, mark "]"],
    constructorType, importType, typeQuery,
    string, number, part [mark "-", number], templateType,
    mark "*", part [mark "?", .rule .unaryType],
    typeName]

/-- A type with the words that stand before it or the brackets that follow it. -/
def unaryType : F :=
  .alt [
    part [oneOf ["keyof", "unique", "readonly"], .rule .unaryType],
    part [word "infer", anyName .other,
      .opt (.seq [word "extends", .rule .unaryType, .absent (mark "?")])],
    .grow primaryType
      [suffix .other none
        [.sameLine, mark "[", .opt (.rule .type), mark "]"]]]

def intersectionType : F :=
  .seq [.opt (markExcept "&" "&"),
    .grow (.rule .unaryType) [suffix .other none [markExcept "&" "&", .rule .unaryType]]]

def unionType : F :=
  .seq [.opt (markExcept "|" "|"),
    .grow intersectionType [suffix .other none [markExcept "|" "|", intersectionType]]]

/-- A union, or a choice between two types. -/
def type : F :=
  .grow unionType
    [suffix .other none
      [word "extends", unionType, mark "?", .rule .type, mark ":", .rule .type]]

end Survey.Syntax.Grammar
