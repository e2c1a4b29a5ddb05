import Survey.Inspection.Inspector
import Survey.Schema.Closure

/-!
Drift between the declared schema and the entities that code accesses.
-/
namespace Survey.Drift

def id : String :=
  "schema-drift"

/-- Entities that authentication libraries own. -/
def ownedElsewhere : List String :=
  ["Account", "Session", "VerificationToken"]

/-- An entity as some file spells it. -/
structure Reference where
  entity : String
  file : String
  deriving DecidableEq

def Reference.key (r : Reference) : String :=
  Schema.entityKey r.entity

/-- What routes and then pages access, in order. -/
def accesses (g : Graph) : List Reference :=
  g.routes.flatMap (fun r => r.entities.map fun e => ⟨e, r.file⟩) ++
    g.pages.flatMap (fun p => p.dataAccess.map fun a => ⟨a.entity, p.file⟩)

/-- The accessed entities by key, each as first spelt. -/
def references (g : Graph) : List Reference :=
  Sorted.ofList Reference.key (accesses g)

def noSchema : Finding where
  inspector := id
  severity := .info
  title := "No schema detected"
  message := "No data schema found; schema drift checks skipped"

def undeclared (r : Reference) : Finding :=
  let entity := r.entity
  { inspector := id
    severity := .warning
    title := "Entity used but not in schema"
    message := s!"`{entity}` is accessed in code but no matching entity is declared in the schema"
    file := some r.file
    suggestion := some "Add the entity to the schema or fix the reference" }

def unused (e : Schema.Entity) : Finding :=
  let name := e.name
  { inspector := id
    severity := .info
    title := "Unused schema entity"
    message := s!"Schema entity `{name}` is never referenced by a route handler or page, directly or through relations"
    suggestion := some "Remove the entity if it is no longer needed, or add code that uses it" }

def missing (g : Graph) : List Reference :=
  (references g).filter fun r => (g.schema.entity? r.entity).isNone

/-- The declared entities that nothing uses, less those owned elsewhere. -/
def idle (g : Graph) : List Schema.Entity :=
  let used := g.schema.closure ((references g).map Reference.key)
  g.schema.entities.filter fun e => !used.contains e.key && !ownedElsewhere.contains e.name

def report (g : Graph) : List Finding :=
  if g.schema.isEmpty then [noSchema]
  else (missing g).map undeclared ++ (idle g).map unused

def inspector : Inspector where
  id := id
  name := "Schema Drift Detector"
  description := "Finds entities used in code but missing from the schema, and schema entities nothing uses"
  tier := .pro
  inspect g _ := .reported (report g)

end Survey.Drift
