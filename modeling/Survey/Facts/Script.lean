import Survey.Facts.Roles
import Survey.Facts.Signals
import Survey.Resolve.Resolver
import Survey.Syntax.Script

/-!
The facts of a script: imports and exports from its top-level statements, calls and state from the
whole tree, signals from its text.
-/
namespace Survey.ScriptFacts

open Survey.Syntax

/-- A string or name without its quotation marks. -/
def unquote (s : String) : String :=
  Text.stripEnds ['"', '\'', '\x60'] s

def fieldText? (f : Field) (t : Tree) : Option String :=
  (t.child? f).map Tree.text

def source? (statement : Tree) : Option String :=
  (fieldText? .source statement).map unquote

def importedNames (part : Tree) : List String :=
  match part.kind with
  | .identifier => ["default"]
  | .namespaceImport => ["* as " ++ (part.named.head?.map Tree.text).getD ""]
  | .namedImports =>
    (part.named.filter fun t => t.kind == .importSpecifier).filterMap fun t =>
      (fieldText? .name t).map unquote
  | _ => []

/-- The import that an import statement makes; some statements name no source. -/
def importOf? (statement : Tree) : Option Import :=
  (source? statement).map fun source =>
    { source
      specifiers := ((statement.named.filter fun t => t.kind == .importClause).flatMap
        Tree.named).flatMap importedNames
      typeOnly := statement.hasToken "type"
      kind := .static
      resolved := none }

/-- The names and other names in the export clauses of a statement. -/
def specifiersOf (statement : Tree) : List (String × Option String) :=
  ((statement.named.filter fun t => t.kind == .exportClause).flatMap Tree.named).filterMap
    fun t => (fieldText? .name t).map fun name => (name, fieldText? .rename t)

/-- The import side of a re-export from a source. -/
def reExport (statement : Tree) (source : String) : Import :=
  let names := statement.named.flatMap fun t =>
    match t.kind with
    | .exportClause => t.named.filterMap (fieldText? .name)
    | .namespaceExport => ["*"]
    | _ => []
  { source
    specifiers := if names.isEmpty then ["*"] else names
    typeOnly := statement.hasToken "type"
    kind := .reExport
    resolved := none }

def clauseExports (statement : Tree) : List Export :=
  (specifiersOf statement).map fun (name, rename) =>
    ⟨rename.getD name, .variable, statement.hasToken "type", none⟩

/-- The parameters and the result of a function on one line. -/
def signature? (f : Tree) : Option String := do
  let parameters ← ((fieldText? .parameters f).map Text.collapsed).or
    ((fieldText? .parameter f).map fun p => "(" ++ p ++ ")")
  match fieldText? .returnType f with
  | some written =>
    let result := Text.trim (written.toList.dropWhile (· = ':'))
    some (parameters ++ " => " ++ String.ofList (Text.collapse result))
  | none => some parameters

/-- The export of one declared variable; patterns export none. -/
def declaratorExport? (declarator : Tree) : Option Export := do
  let name ← declarator.child? .name
  if name.kind == .identifier then
    let function := (declarator.child? .value).filter fun v =>
      v.kind == .arrow || v.kind == .functionExpression
    some ⟨name.text, if function.isSome then .function else .variable, false,
      function.bind signature?⟩
  else none

def declarationExports (d : Tree) : List Export :=
  let named (kind : ExportKind) (typeOnly : Bool) (signature : Option String) : List Export :=
    ((fieldText? .name d).map fun name => ⟨name, kind, typeOnly, signature⟩).toList
  match d.kind with
  | .functionDeclaration | .generatorDeclaration | .functionSignature =>
    named .function false (signature? d)
  | .classDeclaration | .abstractClass => named .classType false none
  | .interfaceDeclaration => named .interface true none
  | .typeAlias => named .type true none
  | .enumDeclaration => named .enum false none
  | .lexicalDeclaration | .variableDeclaration =>
    (d.named.filter fun t => t.kind == .declarator).filterMap declaratorExport?
  | _ => []

/-- The name of a value exported as the default. -/
def defaultName (statement : Tree) : String :=
  let named : Option String := do
    let value ← statement.child? .value
    if value.kind == .identifier then some value.text else fieldText? .name value
  named.getD "default"

/-- The exports of an export statement without a source. -/
def localExports (statement : Tree) : List Export :=
  let isDefault := statement.hasToken "default"
  match statement.child? .declaration with
  | some d =>
    (declarationExports d).map fun e => if isDefault then { e with kind := .default } else e
  | none =>
    if isDefault then [⟨defaultName statement, .default, false, none⟩]
    else clauseExports statement

def statementFacts (statement : Tree) : List Import × List Export :=
  match statement.kind with
  | .importStatement => ((importOf? statement).toList, [])
  | .exportStatement =>
    match source? statement with
    | some source => ([reExport statement source], clauseExports statement)
    | none => ([], localExports statement)
  | _ => ([], [])

/-- One thing that a call or construction shows about a module. -/
inductive CallFact where
  | hook (name : String)
  | sideEffect (name : String)
  | request (call : ApiCall)
  | access (access : DataAccess)
  | danger (what : String)
  | dynamicImport (source : String)

/-- The first argument, when it is a string or a template without text. -/
def firstString? (arguments : Tree) : Option String :=
  match arguments.named.head? with
  | some first =>
    if first.kind == .string || (first.kind == .template && first.named.isEmpty) then
      some (unquote first.text)
    else none
  | none => none

def namedCall (callee : String) (arguments : Option Tree) : List CallFact :=
  let loaded := ((arguments.bind firstString?).map .dynamicImport).toList
  (if Naming.isHook callee then [.hook callee] else []) ++
    (if Signals.lifecycleHooks.contains callee then [.sideEffect callee] else []) ++
    (if callee = "fetch" ∨ callee = "$fetch" ∨ callee = "useFetch" then
      ((arguments.bind fun a => Signals.fetchCall? a.text).map .request).toList
    else if callee = "eval" then [.danger "eval()"]
    else if callee = "exec" ∨ callee = "execSync" then [.danger "exec()"]
    else if callee = "require" then loaded
    else [])

def memberCall (function : Tree) (arguments : Option Tree) : List CallFact :=
  match Signals.dataAccess? function.text with
  | some access => [.access access]
  | none =>
    let property := (fieldText? .property function).getD ""
    match fieldText? .object function with
    | some "document" =>
      if property = "write" ∨ property = "writeln" then [.danger "document.write()"] else []
    | some "React" => namedCall property arguments
    | _ => []

/-- What a tree shows by itself, without the trees below it. -/
def callFacts (t : Tree) : List CallFact :=
  match t.kind with
  | .call =>
    match t.child? .function with
    | none => []
    | some function =>
      let arguments := t.child? .arguments
      match function.kind with
      | .identifier => namedCall function.text arguments
      | .importWord => ((arguments.bind firstString?).map .dynamicImport).toList
      | .member => memberCall function arguments
      | _ => []
  | .construction =>
    if fieldText? .constructed t == some "Function" then [.danger "new Function()"] else []
  | _ => []

def CallFact.hook? : CallFact → Option String
  | .hook name => some name
  | _ => none

def CallFact.sideEffect? : CallFact → Option String
  | .sideEffect name => some name
  | .access a => some a.marker
  | _ => none

def CallFact.request? : CallFact → Option ApiCall
  | .request call => some call
  | _ => none

def CallFact.access? : CallFact → Option DataAccess
  | .access a => some a
  | _ => none

def CallFact.danger? : CallFact → Option String
  | .danger what => some what
  | _ => none

def CallFact.dynamicImport? : CallFact → Option String
  | .dynamicImport source => some source
  | _ => none

/-- The text of the first value that a call is given. -/
def initialValue (arguments : Tree) : Option String :=
  arguments.named.head?.map fun t => Text.collapsed t.text

def stateOf? (declarator : Tree) : Option StateVar := do
  let name ← declarator.child? .name
  let call ← (declarator.child? .value).filter fun v => v.kind == .call
  let function ← call.child? .function
  let arguments ← (call.child? .arguments).filter fun a => a.kind == .arguments
  match name.kind with
  | .arrayPattern =>
    let first ← name.named.head?.filter fun t => t.kind == .identifier
    if ["useState", "React.useState"].contains function.text then
      some ⟨first.text, initialValue arguments⟩
    else none
  | .identifier =>
    if function.kind == .identifier && ["ref", "reactive", "shallowRef"].contains function.text then
      some ⟨name.text, initialValue arguments⟩
    else none
  | _ => none

/-- The capitalised element of a tag; of names joined by points the first counts. -/
def elementOf? (t : Tree) : Option String :=
  if t.kind == .openingTag || t.kind == .selfClosingTag then
    (fieldText? .name t).bind fun name =>
      let head := String.ofList (Text.cut (· = '.') name.toList).1
      if Naming.startsCapital head then some head else none
  else none

/-- A module is rendered by the client when it starts with the directive for it. -/
def renderKind (root : Tree) : RenderKind :=
  let first := root.named.find? fun t => t.kind != .comment && t.kind != .hashBang
  let directive : Option Tree := do
    let statement ← first.filter fun t => t.kind == .expressionStatement
    statement.named.head?.filter fun t => t.kind == .string
  if directive.any fun t => unquote t.text == "use client" then .client else .server

/-- Exports that follow each other with one name and kind are one. -/
def sameExport (a b : Export) : Bool :=
  a.name == b.name && a.kind == b.kind

def ofTree (path : String) (dialect : Dialect) (root : Tree) (text : String)
    (resolver : Resolver) : Module :=
  let statements := root.named.map statementFacts
  let trees := root.subtrees
  let calls := trees.flatMap callFacts
  let loaded := (calls.filterMap CallFact.dynamicImport?).eraseDups.map fun source =>
    { source, specifiers := ["*"], typeOnly := false, kind := .dynamic, resolved := none : Import }
  let exports := (statements.flatMap Prod.snd).eraseRepsBy sameExport
  { path
    imports := (statements.flatMap Prod.fst ++ loaded).map fun i =>
      { i with resolved := resolver.resolve path i.source }
    exports
    renderKind := renderKind root
    roles := Roles.classify path exports
    hooks := (calls.filterMap CallFact.hook?).eraseDups
    state := (trees.filter fun t => t.kind == .declarator).filterMap stateOf?
    apiCalls := (calls.filterMap CallFact.request?).eraseDups
    envVars := Signals.envVars text
    sideEffects := (calls.filterMap CallFact.sideEffect?).eraseDups
    dataAccess := (calls.filterMap CallFact.access?).eraseDups
    elements :=
      match dialect with
      | .markup => (trees.filterMap elementOf?).eraseDups
      | .plain => []
    authSignals := Signals.authSignals text
    requestMethods := Signals.requestMethods text
    queryParams := Signals.queryParams text
    i18nNamespace := Signals.i18nNamespace text
    dangerousPatterns := (calls.filterMap CallFact.danger? ++ Signals.dangers text).eraseDups
    lineCount := Text.lineCount text }

end Survey.ScriptFacts
