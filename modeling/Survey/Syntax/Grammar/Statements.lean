import Survey.Syntax.Grammar.Markup

/-!
Statements and declarations.
-/
namespace Survey.Syntax.Grammar

/-- Statements one after another; a comment may be written as in markup between them. -/
def statements : F :=
  .many (.alt [.lexeme .comment Lexeme.markupComment, .rule .statement])

def block : F :=
  part [mark "\x7b", statements, mark "\x7d"]

def ended (fs : List F) : F :=
  part (fs ++ [.ending .plain])

def declarator : F :=
  .node .declarator (.seq [
    .field .name (.alt [objectPattern, arrayPattern,
      .lexeme .identifier (Lexeme.nameExcept ["enum"])]),
    .opt (markExcept "!" "="), .opt typeAnnotation, .opt initializer])

def lexicalDeclaration : F :=
  .node .lexicalDeclaration
    (.seq [oneOf ["let", "const"], list1 declarator, .ending .plain])

def variableDeclaration : F :=
  .node .variableDeclaration (.seq [word "var", list1 declarator, .ending .plain])

def functionDeclaration : F :=
  .node .functionDeclaration
    (.seq [functionWord, .field .name (anyName .identifier), callSignature, .rule .block])

def generatorDeclaration : F :=
  .node .generatorDeclaration
    (.seq [functionWord, mark "*", .field .name (anyName .identifier), callSignature,
      .rule .block])

def functionSignature : F :=
  .node .functionSignature
    (.seq [functionWord, .field .name (anyName .identifier), callSignature,
      .ending .signature])

def classDeclaration : F :=
  .node .classDeclaration
    (.seq [.many decorator, word "class", .field .name className, classRest])

def abstractClass : F :=
  .node .abstractClass
    (.seq [.many decorator, word "abstract", word "class", .field .name className, classRest])

def enumDeclaration : F :=
  .node .enumDeclaration (.seq [.opt (word "const"), word "enum",
    .field .name (anyName .identifier), mark "\x7b",
    list (part [propertyName, .opt (.seq [assign, .rule (.expression .any)])]), mark "\x7d"])

def interfaceDeclaration : F :=
  .node .interfaceDeclaration (.seq [word "interface", .field .name (anyName .other),
    .opt typeParameters, .opt (.seq [word "extends", list1 (.rule .type)]),
    .rule .objectType])

def typeAlias : F :=
  .node .typeAlias (.seq [word "type", .field .name (anyName .other), .opt typeParameters,
    mark "=", .rule .type, .ending .plain])

def moduleDeclaration : F :=
  part [oneOf ["namespace", "module"], .alt [string, dottedName],
    .alt [.rule .block, .ending .plain]]

def importAlias : F :=
  ended [word "import", anyName .identifier, mark "=", dottedName]

/-- Declarations that stand on their own or after `export`. -/
def plainDeclarations : List F :=
  [functionDeclaration, generatorDeclaration, functionSignature, classDeclaration, abstractClass,
    lexicalDeclaration, variableDeclaration, enumDeclaration, interfaceDeclaration, typeAlias,
    moduleDeclaration, importAlias]

def ambientDeclaration : F :=
  part [word "declare",
    .alt (plainDeclarations ++ [.seq [word "global", .rule .block]])]

def declaration : F :=
  .alt (plainDeclarations ++ [ambientDeclaration])

def fromSource : F :=
  .seq [word "from", .field .source string]

/-- What is known of the form of an imported file. -/
def importAttributes : F :=
  .opt (part [oneOf ["with", "assert"], object])

def namespaceImport : F :=
  .node .namespaceImport (.seq [mark "*", word "as", anyName .identifier])

/-- A name, or a name and another name for it, with the word for types before it. -/
def specifier (kind : Kind) (renamed : F) : F :=
  let exported := .alt [anyName .identifier, string]
  let body := .alt [
    .seq [.field .name exported, word "as", .field .rename renamed],
    .field .name exported]
  .node kind (.alt [
    .seq [oneOf ["type", "typeof"], body, .ahead (oneMark [",", "\x7d"])],
    body])

def namedImports : F :=
  .node .namedImports (.seq [mark "\x7b",
    list (specifier .importSpecifier (anyName .identifier)), mark "\x7d"])

def importClause : F :=
  .node .importClause (.alt [
    namespaceImport, namedImports,
    .seq [anyName .identifier,
      .opt (.seq [mark ",", .alt [namespaceImport, namedImports]])]])

def importStatement : F :=
  let typeWord := oneOf ["type", "typeof"]
  let required := part [anyName .identifier, mark "=", word "require", mark "(",
    .field .source string, mark ")"]
  .node .importStatement (.alt [
    .seq [word "import", .field .source string, importAttributes, .ending .plain],
    .seq [word "import", typeWord, importClause, fromSource, importAttributes, .ending .plain],
    .seq [word "import", importClause, fromSource, importAttributes, .ending .plain],
    .seq [word "import", .opt typeWord, required, .ending .plain]])

def exportClause : F :=
  .node .exportClause (.seq [mark "\x7b",
    list (specifier .exportSpecifier (.alt [anyName .identifier, string])), mark "\x7d"])

/-- A function or class with a name is a declaration, never an operand of a statement. -/
def namedStart : F :=
  .alt [
    .seq [functionWord, .opt (mark "*"), anyName .other],
    .seq [.many decorator, word "class", className]]

/-- What is exported as the default: a declaration or a value. -/
def defaultExport : F :=
  .seq [word "default",
    .alt [
      .field .declaration declaration,
      .seq [.absent namedStart,
        .absent (oneOf ["enum", "interface", "abstract", "const", "var"]),
        .field .value (.rule (.expression .any)), .ending .plain]]]

def exportStatement : F :=
  .node .exportStatement (.alt [
    .seq [word "export", mark "*", fromSource, .ending .plain],
    .seq [word "export",
      .node .namespaceExport
        (.seq [mark "*", word "as", .alt [anyName .identifier, string]]),
      fromSource, .ending .plain],
    .seq [word "export", .opt (word "type"), exportClause, .opt fromSource, .ending .plain],
    .seq [word "export", assign, .rule (.expression .any), .ending .plain],
    .seq [word "export", word "as", word "namespace", anyName .identifier, .ending .plain],
    .seq [.many decorator, word "export", defaultExport],
    .seq [.many decorator, word "export", .field .declaration declaration],
    .seq [word "export", importAlias]])

/-- Words that start a statement and so are no operands there. -/
def statementWords : F :=
  oneOf ["if", "for", "while", "do", "switch", "try", "with", "break", "continue", "return",
    "throw", "debugger", "var", "const", "enum", "interface", "abstract", "case", "default",
    "export"]

def condition : F :=
  parenthesized

def ifStatement : F :=
  part [word "if", condition, .rule .statement,
    announced "else" (.seq [word "else", .rule .statement])]

def switchStatement : F :=
  let clause := .alt [
    part [word "case", .rule (.expressions .any), mark ":", statements],
    part [word "case", .rule (.expressions .untyped), mark ":", statements],
    part [word "default", mark ":", statements]]
  part [word "switch", condition, mark "\x7b", .many clause, mark "\x7d"]

def forInStatement : F :=
  let bound := .alt [objectPattern, arrayPattern, anyName .identifier]
  let header := .alt [
    .seq [oneOf ["let", "const", "var"], bound, .opt initializer, oneOf ["in", "of"]],
    .seq [.alt [.rule .pattern, parenthesized], oneOf ["in", "of"]]]
  part [word "for", .opt (word "await"), mark "(", header, .rule (.expressions .any), mark ")",
    .rule .statement]

def forStatement : F :=
  part [word "for", mark "(",
    .alt [lexicalDeclaration, variableDeclaration,
      .seq [.rule (.expressions .any), mark ";"], mark ";"],
    .opt (.rule (.expressions .any)), mark ";", .opt (.rule (.expressions .any)), mark ")",
    .rule .statement]

def tryStatement : F :=
  let caught := .seq [mark "(", .rule .pattern, .opt typeAnnotation, mark ")"]
  part [word "try", .rule .block,
    announced "catch" (part [word "catch", .opt caught, .rule .block]),
    announced "finally" (part [word "finally", .rule .block])]

def jumpStatements : List F :=
  let operand := .opt (.seq [.absent (.ending .plain), .rule (.expressions .any)])
  let jumpLabel := .opt (.seq [.sameLine, anyName .other])
  [ended [word "return", operand],
    ended [word "throw", .rule (.expressions .any)],
    ended [word "break", jumpLabel],
    ended [word "continue", jumpLabel],
    ended [word "debugger"]]

def expressionStatement : F :=
  .node .expressionStatement (.seq [.absent statementWords, .absent namedStart,
    .rule (.expressions .any), .ending .plain])

def labelledStatement : F :=
  part [.absent statementWords, anyName .other, mark ":", .rule .statement]

def statement : F :=
  .alt ([exportStatement, importStatement, .rule .block] ++
    plainDeclarations ++ [ambientDeclaration, ifStatement, switchStatement, forInStatement,
      forStatement,
      part [word "while", condition, .rule .statement],
      part [word "do", .rule .statement, word "while", condition, .opt (mark ";")],
      tryStatement,
      part [word "with", condition, .rule .statement]] ++
    jumpStatements ++ [part [mark ";"], labelledStatement, expressionStatement])

def program : F :=
  .seq [.opt (.here .hashBang Lexeme.hashBang), statements, .finish]

end Survey.Syntax.Grammar
