import Survey.Facts.Read
import Survey.Schema.Basic

/-!
Schemas written as calls of table builders. Declarations are read from the tree of each script;
what they say of each other is settled once all of them are known.
-/
namespace Survey.Schema.Builder

open Survey.Text
open Survey.Syntax (Tree)

/-- The type of a column by its builder. -/
def columnTypes : List (String × String) :=
  [("serial", "Int"), ("smallserial", "Int"), ("bigserial", "BigInt"), ("integer", "Int"),
    ("int", "Int"), ("smallint", "Int"), ("tinyint", "Int"), ("mediumint", "Int"),
    ("bigint", "BigInt"), ("real", "Float"), ("float", "Float"), ("double", "Float"),
    ("doublePrecision", "Float"), ("numeric", "Decimal"), ("decimal", "Decimal"),
    ("text", "String"), ("varchar", "String"), ("char", "String"), ("uuid", "String"),
    ("boolean", "Boolean"), ("timestamp", "DateTime"), ("datetime", "DateTime"),
    ("date", "DateTime"), ("time", "String"), ("interval", "String"), ("json", "Json"),
    ("jsonb", "Json"), ("blob", "Bytes")]

/-- A column of a table, as its builder calls are written. -/
structure Column where
  name : String
  /-- The name of the first builder; empty without one. -/
  builder : String
  constraints : List String
  /-- The table variable that the column refers to. -/
  reference : Option String
  deriving DecidableEq

structure Table where
  var : String
  name : String
  columns : List Column
  deriving DecidableEq

/-- A relation that one side declares. -/
structure Entry where
  field : String
  toMany : Bool
  /-- The table variable of the other side. -/
  target : String
  deriving DecidableEq

/-- The relations that are declared for a table variable. -/
structure Relations where
  table : String
  entries : List Entry
  deriving DecidableEq

structure EnumBinding where
  var : String
  enumeration : Enumeration
  deriving DecidableEq

inductive Declaration where
  | table (t : Table)
  | enumeration (e : EnumBinding)
  | relations (r : Relations)
  deriving DecidableEq

def columnHead (cs : List Char) : String :=
  let found : Option String := do
    let (name, rest) ← plainName (skipBlank cs)
    let _ ← lit "(" (skipBlank rest)
    some name
  found.getD ""

def reference : Recogniser String := fun cs => do
  let cs ← lit ".references(" cs
  let cs ← lit "(" (skipBlank cs)
  let cs ← lit ")" (skipBlank cs)
  let cs := skipBlank cs
  let typed : Option (List Char) := do
    let cs ← lit ":" cs
    let (_, cs) ← run1 isWord (skipBlank cs)
    some (skipBlank cs)
  let cs ← lit "=>" (typed.getD cs)
  let (table, cs) ← run1 isWord (skipBlank cs)
  let cs ← lit "." cs
  let (_, cs) ← run1 isWord cs
  some (table, cs)

/-- The default value of a column, up to the first closing parenthesis. -/
def defaultValue : Recogniser String := fun cs => do
  let cs ← lit ".default(" cs
  match cut (· = ')') cs with
  | (value, some rest) => some (String.ofList (trim value), rest)
  | (_, none) => none

/-- The constraints that the calls on a column add. -/
def columnConstraints (text : String) : List String :=
  let mark (call constraint : String) : List String := if holds text call then [constraint] else []
  let defaults :=
    if holds text ".defaultNow(" then ["@default(now())"]
    else ((findFirst? defaultValue text.toList).map fun v => "@default(" ++ v ++ ")").toList
  mark ".primaryKey(" "primary key" ++ mark ".notNull(" "not null" ++ mark ".unique(" "unique" ++
    defaults ++ mark ".$onUpdate" "auto-updated"

def entry : Recogniser Entry := fun cs => do
  let (field, cs) ← run1 isWord cs
  let cs ← lit ":" (skipBlank cs)
  let cs := skipBlank cs
  let (toMany, cs) ← ((lit "one" cs).map fun rest => (false, rest)).or
    ((lit "many" cs).map fun rest => (true, rest))
  let cs ← lit "(" (skipBlank cs)
  let (target, cs) ← run1 isWord (skipBlank cs)
  some (⟨field, toMany, target⟩, cs)

def arguments (call : Tree) : List Tree :=
  ((call.child? .arguments).map Tree.named).getD [] |>.filter fun t => t.kind != .comment

def column? (pair : Tree) : Option Column := do
  let key ← pair.child? .key
  let value ← pair.child? .value
  let text := value.text
  if pair.kind == .pair then
    some
      { name := ScriptFacts.unquote key.text
        builder := columnHead text.toList
        constraints := columnConstraints text
        reference := findFirst? reference text.toList }
  else none

def table? (var : String) (call : Tree) : Option Table :=
  match arguments call with
  | first :: columns :: _ =>
    if columns.kind == .object then
      some
        { var
          name := if first.kind == .string then ScriptFacts.unquote first.text else var
          columns := columns.named.filterMap column? }
    else none
  | _ => none

def enumeration? (call : Tree) : Option Enumeration := do
  let name ← (arguments call).head?.filter fun t => t.kind == .string
  let values := ((arguments call)[1]?.filter fun t => t.kind == .array).map fun array =>
    (array.named.filter fun t => t.kind == .string).map fun t => ScriptFacts.unquote t.text
  some ⟨ScriptFacts.unquote name.text, values.getD []⟩

def relations? (call : Tree) : Option Relations :=
  match arguments call with
  | table :: body :: _ => some ⟨table.text, findAll entry body.text.toList⟩
  | _ => none

def declaration? (declarator : Tree) : Option Declaration := do
  let name ← declarator.child? .name
  let call ← (declarator.child? .value).filter fun v => v.kind == .call
  let callee := ((call.child? .function).map Tree.text).getD ""
  if ["pgTable", "mysqlTable", "sqliteTable"].contains callee then
    (table? name.text call).map .table
  else if ["pgEnum", "mysqlEnum"].contains callee then
    (enumeration? call).map fun e => .enumeration ⟨name.text, e⟩
  else if callee = "relations" then (relations? call).map .relations
  else none

def declarationsOf (root : Tree) : List Declaration :=
  let declared := root.named.filterMap fun t =>
    match t.kind with
    | .lexicalDeclaration | .variableDeclaration => some t
    | .exportStatement => t.child? .declaration
    | _ => none
  (declared.flatMap fun t => t.named.filter fun d => d.kind == .declarator).filterMap declaration?

def Declaration.table? : Declaration → Option Table
  | .table t => some t
  | _ => none

def Declaration.enumeration? : Declaration → Option EnumBinding
  | .enumeration e => some e
  | _ => none

def Declaration.relations? : Declaration → Option Relations
  | .relations r => some r
  | _ => none

/-- The value that the last binding of a name gives it. -/
def lastBinding? {α : Type} (bindings : List (String × α)) (name : String) : Option α :=
  bindings.reverse.lookup name

/-- The type of a column; an enumeration's name where its builder is one. -/
def columnType (enums : List (String × String)) (c : Column) : String :=
  match columnTypes.lookup c.builder with
  | some type => type
  | none => (lastBinding? enums c.builder).getD "unknown"

/-- The entity of a table, with a relation for each reference to a known table. -/
def entityOf (enums tables : List (String × String)) (t : Table) : Entity :=
  { name := entityName t.name
    fields := t.columns.map fun c => ⟨c.name, columnType enums c, c.constraints⟩
    relations := t.columns.filterMap fun c =>
      (c.reference.bind (lastBinding? tables)).map fun target => ⟨c.name, target, .oneToOne⟩ }

/-- A relation added to an entity, unless its field has one or its target is unknown. -/
def addEntry (tables : List (String × String)) (e : Entity) (entry : Entry) : Entity :=
  match lastBinding? tables entry.target with
  | some target =>
    if e.relations.any fun r => r.field == entry.field then e
    else
      { e with
        relations := e.relations ++
          [⟨entry.field, target, if entry.toMany then .oneToMany else .oneToOne⟩] }
  | none => e

/-- The first entity bound to a variable changed by `f`. -/
def modifyFirst (var : String) (f : Entity → Entity) :
    List (String × Entity) → List (String × Entity)
  | [] => []
  | (v, e) :: rest =>
    if v == var then (v, f e) :: rest else (v, e) :: modifyFirst var f rest

def assemble (ds : List Declaration) : Schema :=
  let enums := ds.filterMap Declaration.enumeration?
  let tables := ds.filterMap Declaration.table?
  let enumNames := enums.map fun e => (e.var, e.enumeration.name)
  let tableNames := tables.map fun t => (t.var, entityName t.name)
  let entities := tables.map fun t => (t.var, entityOf enumNames tableNames t)
  let related := (ds.filterMap Declaration.relations?).foldl (fun es r =>
    modifyFirst r.table (fun e => r.entries.foldl (addEntry tableNames) e) es) entities
  { dialect := .builder
    entities := mergeEntities (related.map Prod.snd)
    enums := enums.map EnumBinding.enumeration }

/-- The declarations of a script; one that breaks the grammar has none. -/
def declarationsIn (path text : String) (parser : Syntax.Parser := Syntax.Script.parse?) :
    List Declaration :=
  match ScriptFile.ofText path (dialectOf path) text parser with
  | .ok file => declarationsOf file.root
  | .error _ => []

def parse (sources : List (String × String)) (parser : Syntax.Parser := Syntax.Script.parse?) :
    Schema :=
  assemble (sources.flatMap fun (path, text) => declarationsIn path text parser)

end Survey.Schema.Builder
