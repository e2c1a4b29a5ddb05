import Survey.Text.Basic

/-!
The facts of one module of a project: what it imports and exports, the roles it plays, and what its
code calls, reads and renders.
-/
namespace Survey

/-- A role that a module plays. The order is the order of precedence. -/
inductive Role where
  | page | routeHandler | hook | component | library
  deriving DecidableEq

namespace Role

def all : List Role :=
  [.page, .routeHandler, .hook, .component, .library]

/-- The roles that satisfy `p`, by precedence. -/
def select (p : Role → Bool) : List Role :=
  all.filter p

def name : Role → String
  | .page => "page"
  | .routeHandler => "route-handler"
  | .hook => "hook"
  | .component => "component"
  | .library => "library"

/-- The first role of a set; a module without any is a library. -/
def primary (roles : List Role) : Role :=
  (all.find? roles.contains).getD .library

end Role

inductive RenderKind where
  | server | client
  deriving DecidableEq

def RenderKind.name : RenderKind → String
  | .server => "server"
  | .client => "client"

inductive ImportKind where
  | static | reExport | dynamic
  deriving DecidableEq

def ImportKind.name : ImportKind → String
  | .static => "static"
  | .reExport => "re-export"
  | .dynamic => "dynamic"

structure Import where
  /-- The specifier as written. -/
  source : String
  /-- The imported names; a star for all of them, with the local name where there is one. -/
  specifiers : List String
  typeOnly : Bool
  kind : ImportKind
  /-- The module that the specifier means, when it is one of the project. -/
  resolved : Option String
  deriving DecidableEq

def Import.isRelative (i : Import) : Bool :=
  Text.leads "./" i.source || Text.leads "../" i.source || i.source == "."

/-- Whether all exports of the target can be reached through the import. -/
def Import.isNamespace (i : Import) : Bool :=
  i.specifiers.any fun s => s == "*" || Text.leads "* as " s

inductive ExportKind where
  | function | classType | variable | type | interface | enum | default
  deriving DecidableEq

def ExportKind.name : ExportKind → String
  | .function => "function"
  | .classType => "class"
  | .variable => "variable"
  | .type => "type"
  | .interface => "interface"
  | .enum => "enum"
  | .default => "default"

structure Export where
  name : String
  kind : ExportKind
  typeOnly : Bool
  /-- The parameters and result of an exported function. -/
  signature : Option String
  deriving DecidableEq

/-- A local state variable and the text of its first value. -/
structure StateVar where
  name : String
  initial : Option String
  deriving DecidableEq

/-- A request to a route of the project itself. -/
structure ApiCall where
  endpoint : String
  method : String
  deriving DecidableEq

structure DataAccess where
  entity : String
  operation : String
  deriving DecidableEq

/-- The side effect that a data access counts as. -/
def DataAccess.marker (a : DataAccess) : String :=
  "DB:" ++ a.operation

structure Module where
  /-- The path in the project, which identifies the module. -/
  path : String := ""
  imports : List Import := []
  exports : List Export := []
  renderKind : RenderKind := .server
  /-- The roles by precedence, each once. -/
  roles : List Role := []
  hooks : List String := []
  state : List StateVar := []
  apiCalls : List ApiCall := []
  envVars : List String := []
  sideEffects : List String := []
  dataAccess : List DataAccess := []
  /-- The capitalised markup elements. -/
  elements : List String := []
  authSignals : List String := []
  requestMethods : List String := []
  queryParams : List String := []
  i18nNamespace : Option String := none
  dangerousPatterns : List String := []
  lineCount : Nat := 0

def Module.has (m : Module) (r : Role) : Bool :=
  m.roles.contains r

def Module.dataFetching (m : Module) : Option String :=
  (m.exports.map Export.name).find?
    ["getServerSideProps", "getStaticProps", "getStaticPaths", "getInitialProps"].contains

end Survey
