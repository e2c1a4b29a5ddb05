import Survey.Schema.Basic
import Survey.Text.Scan

/-!
Schemas written as blocks: a model with a field on each line, or an enumeration with a value on each
line.
-/
namespace Survey.Schema.Block

open Survey.Text

inductive Keyword where
  | model | enum
  deriving DecidableEq

structure Declaration where
  keyword : Keyword
  name : String
  body : List Char

/-- Take out everything from two slashes to the end of the line. -/
def stripComments (cs : List Char) : List Char :=
  go false cs
where
  go (inside : Bool) : List Char → List Char
    | [] => []
    | '\n' :: cs => '\n' :: go false cs
    | '/' :: '/' :: cs => go true cs
    | c :: cs => if inside then go true cs else c :: go false cs

def keyword? (cs : List Char) : Option (Keyword × List Char) :=
  ((lit "model" cs).map fun rest => (.model, rest)).or
    ((lit "enum" cs).map fun rest => (.enum, rest))

/-- The header of a block up to and with its brace; a line starts with it. -/
def header (before : Option Char) : Recogniser (Keyword × String × List Char) := fun cs =>
  if before.all (· == '\n') then do
    let (keyword, cs) ← keyword? (skipBlank cs)
    let cs ← one isBlank cs
    let (name, cs) ← run1 isWord (skipBlank cs)
    let cs ← lit "\x7b" (skipBlank cs)
    some ((keyword, name, cs), cs)
  else none

/-- Where the text of a body stands: outside strings, in one, or after a backslash in one. -/
inductive Place where
  | plain | string | escaped
  deriving DecidableEq

/-- The text up to the closing brace. Braces in strings do not count, and an opening brace before
the closing one leaves the block without a body. -/
def bodyFrom : Place → List Char → Option (List Char)
  | _, [] => none
  | .plain, c :: cs =>
    if c = '\x7b' then none
    else if c = '\x7d' then some []
    else (bodyFrom (if c = '"' then .string else .plain) cs).map (c :: ·)
  | .string, c :: cs =>
    (bodyFrom (if c = '\\' then .escaped else if c = '"' then .plain else .string) cs).map (c :: ·)
  | .escaped, c :: cs => (bodyFrom .string cs).map (c :: ·)

/-- The blocks of a text; those without an end are passed over. -/
def declarations (cs : List Char) : List Declaration :=
  (findFrom header none 0 cs).filterMap fun (keyword, name, rest) =>
    (bodyFrom .plain rest).map fun body => ⟨keyword, name, body⟩

structure Attribute where
  name : String
  arguments : String
  deriving DecidableEq

/-- Arguments up to and with the closing parenthesis, with parentheses one deep inside; the flag
says that an inner one is open. -/
def argumentsRest : (inner : Bool) → List Char → Option (List Char × List Char)
  | _, [] => none
  | inner, c :: cs =>
    let more (inner : Bool) := (argumentsRest inner cs).map fun (args, rest) => (c :: args, rest)
    if c = '(' then if inner then none else more true
    else if c = ')' then if inner then more false else some ([c], cs)
    else more inner

def arguments? : List Char → Option (List Char × List Char)
  | '(' :: cs => (argumentsRest false cs).map fun (args, rest) => ('(' :: args, rest)
  | _ => none

/-- An attribute with its arguments, when they are well formed. -/
def fieldAttribute : Recogniser Attribute := fun cs => do
  let cs ← lit "@" cs
  let (name, cs) ← run1 (fun c => isWord c || c == '.') cs
  match arguments? cs with
  | some (args, rest) => some (⟨name, String.ofList args⟩, rest)
  | none => some (⟨name, ""⟩, cs)

/-- The constraint that an attribute adds; one that marks a relation adds none. -/
def Attribute.constraint? (a : Attribute) : Option String :=
  if a.name = "id" then some "primary key"
  else if a.name = "unique" then some "unique"
  else if a.name = "updatedAt" then some "auto-updated"
  else if a.name = "relation" then none
  else some ("@" ++ a.name ++ a.arguments)

/-- A type without the marks at its end. -/
def baseType (type : List Char) : List Char :=
  (dropPairs (type.reverse.dropWhile (· = '?'))).reverse
where
  dropPairs : List Char → List Char
    | ']' :: '[' :: cs => dropPairs cs
    | cs => cs

/-- A field line: the field, and the relation that it holds. -/
structure Line where
  field : Field
  relation : Option Relation

/-- A line of a model. Names of declared models and marked fields make relations. -/
def line? (declared : List String) (cs : List Char) : Option Line := do
  let cs := trim cs
  if cs.head? == some '@' then none
  else
    match words cs with
    | name :: type :: _ =>
      let isArray := "[]".toList.isSuffixOf type
      let base := String.ofList (baseType type)
      let attributes := findAll fieldAttribute (cs.dropWhile (· ≠ '@'))
      let constraints :=
        (if type.getLast? == some '?' then ["optional"] else []) ++
          (if isArray then ["array"] else []) ++ attributes.filterMap Attribute.constraint?
      let related := attributes.any (·.name == "relation") || declared.contains (entityKey base)
      some
        { field := ⟨String.ofList name, base, constraints⟩
          relation :=
            if related then
              some ⟨String.ofList name, entityName base,
                if isArray then .oneToMany else .oneToOne⟩
            else none }
    | _ => none

def model (declared : List String) (name : String) (body : List Char) : Entity :=
  let lines := (lines body).filterMap (line? declared)
  ⟨entityName name, lines.map Line.field, lines.filterMap Line.relation⟩

def enumValues (body : List Char) : List String :=
  ((lines body).filterMap fun l => (words l).head?).filterMap fun w =>
    if w.head? == some '@' then none else some (String.ofList w)

/-- The keys of an entity and of its partner in a relation to many. -/
def arrayPairs (es : List Entity) : List (String × String) :=
  es.flatMap fun e =>
    (e.relations.filter fun r => r.cardinality == .oneToMany).map fun r =>
      (e.key, entityKey r.target)

/-- Relations to many that both sides hold are many to many. -/
def markManyToMany (es : List Entity) : List Entity :=
  let pairs := arrayPairs es
  es.map fun e =>
    { e with
      relations := e.relations.map fun r =>
        if r.cardinality == .oneToMany && pairs.contains (entityKey r.target, e.key) then
          { r with cardinality := .manyToMany }
        else r }

def assemble (blocks : List Declaration) : Schema :=
  let models := blocks.filter fun b => b.keyword == .model
  let declared := models.map fun b => entityKey b.name
  { dialect := .block
    entities :=
      markManyToMany (mergeEntities (models.map fun b => model declared b.name b.body))
    enums := (blocks.filter fun b => b.keyword == .enum).map fun b =>
      ⟨b.name, enumValues b.body⟩ }

def parse (text : String) : Schema :=
  assemble (declarations (stripComments text.toList))

end Survey.Schema.Block
