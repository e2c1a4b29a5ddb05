import Survey.Facts.Naming
import Survey.Facts.Roles
import Survey.Facts.Signals
import Survey.Project.Path
import Survey.Schema.Basic
import Survey.Sorted

/-!
The import graph of a project: its modules by path, one arc for every import that names one of them,
and the records of its pages, routes, components and libraries.
-/
namespace Survey

/-- How the importing module reaches the other. -/
inductive ArcKind where
  | plain | typeOnly | reExport | dynamic
  deriving DecidableEq

namespace ArcKind

def name : ArcKind → String
  | .plain => "import"
  | .typeOnly => "type-import"
  | .reExport => "re-export"
  | .dynamic => "dynamic"

/-- Type imports are erased before a program runs. -/
def isRuntime (k : ArcKind) : Bool :=
  k != .typeOnly

def ofImport (i : Import) : ArcKind :=
  if i.typeOnly then .typeOnly
  else
    match i.kind with
    | .static => .plain
    | .reExport => .reExport
    | .dynamic => .dynamic

end ArcKind

structure Arc where
  source : String
  target : String
  kind : ArcKind
  deriving DecidableEq

structure Page where
  file : String
  routePath : String
  renderKind : RenderKind
  auth : String
  dataAccess : List DataAccess
  components : List String
  apiCalls : List ApiCall
  params : List String
  i18nNamespace : Option String
  dataFetching : Option String

/-- A component or hook. -/
structure Component where
  file : String
  name : String
  renderKind : RenderKind
  state : List StateVar
  hooks : List String
  apiCalls : List ApiCall
  sideEffects : List String
  envVars : List String
  renders : List String
  usedBy : List String

structure Route where
  file : String
  routePath : String
  methods : List String
  auth : String
  /-- The accessed entities as written, each once. -/
  entities : List String
  sideEffects : List String

structure Library where
  file : String
  exports : List Export
  imports : List Import
  usedBy : List String
  envVars : List String
  sideEffects : List String

/-- The mark of a module without any check of who asks. -/
def noAuth : String :=
  "None"

/-- The name a module is shown by: that of its component, else of its hook, else its file's. -/
def Module.displayName (m : Module) : String :=
  let names := (m.exports.filter fun e => !e.typeOnly).map Export.name
  match names.find? Naming.isPascal with
  | some name => name
  | none => (names.find? Naming.isHook).getD (Path.stem m.path)

/-- The methods that a module handles; one that shows none handles all. -/
def Module.methods (m : Module) : List String :=
  let exported := (m.exports.map Export.name).filter Naming.httpMethods.contains
  if !exported.isEmpty then exported
  else if !m.requestMethods.isEmpty then m.requestMethods
  else ["ALL"]

namespace Page

def ofModule (m : Module) : Page where
  file := m.path
  routePath := Roles.routePath m.path
  renderKind := m.renderKind
  auth := m.authSignals.head?.getD noAuth
  dataAccess := m.dataAccess
  components := m.elements
  apiCalls := m.apiCalls
  params := m.queryParams
  i18nNamespace := m.i18nNamespace
  dataFetching := m.dataFetching

end Page

namespace Route

def ofModule (m : Module) : Route where
  file := m.path
  routePath := Roles.routePath m.path
  methods := m.methods
  auth := (m.authSignals.find? Signals.isServerAuth).getD noAuth
  entities := (m.dataAccess.map DataAccess.entity).eraseDups
  sideEffects := m.sideEffects

def isAuthenticated (r : Route) : Bool :=
  r.auth != noAuth

/-- Whether a method that writes is handled by name. -/
def isMutating (r : Route) : Bool :=
  r.methods.any ["POST", "PUT", "DELETE", "PATCH"].contains

end Route

def Component.ofModule (m : Module) (usedBy : List String) : Component where
  file := m.path
  name := m.displayName
  renderKind := m.renderKind
  state := m.state
  hooks := m.hooks
  apiCalls := m.apiCalls
  sideEffects := m.sideEffects
  envVars := m.envVars
  renders := m.elements
  usedBy := usedBy

def Library.ofModule (m : Module) (usedBy : List String) : Library where
  file := m.path
  exports := m.exports
  imports := m.imports
  usedBy := usedBy
  envVars := m.envVars
  sideEffects := m.sideEffects

structure Graph where
  /-- The modules by path, each path once. -/
  modules : List Module := []
  /-- The arcs by importing module, in the order of its imports; equal arcs are all kept. -/
  arcs : List Arc := []
  /-- The reverse index: every imported module with the modules that import it. -/
  usedBy : List (String × List String) := []
  pages : List Page := []
  components : List Component := []
  routes : List Route := []
  libraries : List Library := []
  schema : Schema := {}

namespace Graph

def ids (g : Graph) : List String :=
  g.modules.map Module.path

def module? (g : Graph) (id : String) : Option Module :=
  g.modules.find? (·.path == id)

/-- The modules that import a module, as the reverse index has them. -/
def importers (g : Graph) (id : String) : List String :=
  (g.usedBy.lookup id).getD []

/-- The modules that a module imports, ascending. -/
def dependencies (g : Graph) (id : String) : List String :=
  Sorted.distinct ((g.arcs.filter (·.source == id)).map Arc.target)

def component? (g : Graph) (id : String) : Option Component :=
  g.components.find? (·.file == id)

def library? (g : Graph) (id : String) : Option Library :=
  g.libraries.find? (·.file == id)

structure Stats where
  modules : Nat := 0
  edges : Nat := 0
  pages : Nat := 0
  components : Nat := 0
  routes : Nat := 0
  libraries : Nat := 0
  entities : Nat := 0
  deriving DecidableEq

def stats (g : Graph) : Stats where
  modules := g.modules.length
  edges := g.arcs.length
  pages := g.pages.length
  components := g.components.length
  routes := g.routes.length
  libraries := g.libraries.length
  entities := g.schema.entities.length

end Graph

end Survey
