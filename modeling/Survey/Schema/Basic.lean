import Survey.Text.Basic
import Survey.Text.Case

/-!
Data schemas: entities with fields and relations, and enumerations. Entities are told apart by a key
that all spellings of a name share.
-/
namespace Survey

namespace Schema

/-- How many partners a relation has on each side. -/
inductive Cardinality where
  | oneToOne | oneToMany | manyToMany
  deriving DecidableEq

def Cardinality.name : Cardinality → String
  | .oneToOne => "one-to-one"
  | .oneToMany => "one-to-many"
  | .manyToMany => "many-to-many"

structure Field where
  name : String
  type : String
  constraints : List String
  deriving DecidableEq

structure Relation where
  field : String
  target : String
  cardinality : Cardinality
  deriving DecidableEq

structure Entity where
  name : String
  fields : List Field
  relations : List Relation
  deriving DecidableEq

structure Enumeration where
  name : String
  values : List String
  deriving DecidableEq

/-- How a schema is written. -/
inductive Dialect where
  | block | builder | none
  deriving DecidableEq

def Dialect.name : Dialect → String
  | .block => "block"
  | .builder => "builder"
  | .none => "none"

end Schema

structure Schema where
  dialect : Schema.Dialect := .none
  entities : List Schema.Entity := []
  enums : List Schema.Enumeration := []
  deriving DecidableEq

namespace Schema

/-- Characters that separate the words of a name. -/
def isSeparator (c : Char) : Bool :=
  c == '_' || c == '-' || c == ' '

def capitalise : List Char → List Char
  | [] => []
  | c :: cs => Text.upper c ++ cs

/-- The name of an entity: its words capitalised and joined. -/
def entityName (name : String) : String :=
  String.ofList (((Text.pieces isSeparator name.toList).filter (· ≠ [])).flatMap capitalise)

/-- What all spellings of the name of an entity have in common. -/
def entityKey (name : String) : String :=
  Text.lowercase (entityName name)

def Entity.key (e : Entity) : String :=
  entityKey e.name

def isEmpty (s : Schema) : Bool :=
  s.entities.isEmpty

def entity? (s : Schema) (name : String) : Option Entity :=
  s.entities.find? fun e => e.key == entityKey name

/-- The items with those of `more` whose names are new, each name once. -/
def addNew {α : Type} (name : α → String) (items more : List α) : List α :=
  more.foldl (fun kept a => if kept.any fun b => name b == name a then kept else kept ++ [a]) items

/-- An entity with the fields and relations of another that it has not. -/
def Entity.merge (e other : Entity) : Entity :=
  { e with
    fields := addNew Field.name e.fields other.fields
    relations := addNew Relation.field e.relations other.relations }

/-- An entity put into a list: merged with the one of its key, or at the end. -/
def insertEntity (e : Entity) : List Entity → List Entity
  | [] => [e]
  | d :: ds => if d.key == e.key then d.merge e :: ds else d :: insertEntity e ds

/-- Entities with one key as one, in the order the keys were seen. -/
def mergeEntities (es : List Entity) : List Entity :=
  es.foldl (fun kept e => insertEntity e kept) []

end Schema

end Survey
