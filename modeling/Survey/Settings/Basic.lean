import Survey.Project.Framework
import Survey.Text.Basic

/-!
The settings of a run, with a default for each.
-/
namespace Survey

/-- The limits that inspectors compare with. A value is reported when it is above its limit; a
directory needs an index from `barrelFiles` files on. -/
structure Thresholds where
  maxLines : Nat := 500
  maxDependencies : Nat := 15
  maxPageComponents : Nat := 20
  maxPageImports : Nat := 20
  maxPageCalls : Nat := 5
  maxRenders : Nat := 15
  maxFanIn : Nat := 10
  maxFanOut : Nat := 15
  bridgeDegree : Nat := 4
  hubUsers : Nat := 4
  hubRenders : Nat := 4
  barrelFiles : Nat := 4
  deriving DecidableEq

/-- The limits with the names they have in a settings file, in the order they are checked. -/
def Thresholds.entries (t : Thresholds) : List (String × Nat) :=
  [("max_line_count", t.maxLines), ("max_dependencies", t.maxDependencies),
    ("max_page_components", t.maxPageComponents), ("max_page_imports", t.maxPageImports),
    ("max_api_calls_per_page", t.maxPageCalls), ("max_component_renders", t.maxRenders),
    ("max_fan_in", t.maxFanIn), ("max_fan_out", t.maxFanOut),
    ("bridge_degree", t.bridgeDegree), ("hub_used_by", t.hubUsers),
    ("hub_renders", t.hubRenders), ("barrel_min_files", t.barrelFiles)]

/-- Which schema dialect to look for. -/
inductive SchemaProvider where
  | auto | prisma | drizzle | none
  deriving DecidableEq

namespace SchemaProvider

def all : List SchemaProvider :=
  [.auto, .prisma, .drizzle, .none]

def name : SchemaProvider → String
  | .auto => "auto"
  | .prisma => "prisma"
  | .drizzle => "drizzle"
  | .none => "none"

def ofName? (name : String) : Option SchemaProvider :=
  all.find? (·.name == name)

end SchemaProvider

structure SchemaSettings where
  provider : SchemaProvider := .auto
  /-- A file or directory that stands in for the usual places. -/
  path : Option String := none
  deriving DecidableEq

/-- Which inspectors run, and how. -/
structure InspectionSettings where
  enabled : Bool := true
  license : Option String := none
  /-- The inspectors that never run. -/
  exclude : List String := []
  /-- What the names of variables begin with that may reach a browser. -/
  publicEnvPrefixes : List String := ["NEXT_PUBLIC_"]
  thresholds : Thresholds := {}
  deriving DecidableEq

structure Settings where
  output : String := ".archlens"
  framework : Framework := .auto
  /-- Patterns of paths that are left out. -/
  exclude : List String :=
    ["**/node_modules/**", "**/.next/**", "**/dist/**", "**/build/**", "**/*.test.*",
      "**/*.spec.*", "**/__tests__/**"]
  includeVue : Bool := true
  schema : SchemaSettings := {}
  inspection : InspectionSettings := {}
  deriving DecidableEq

def Settings.isPublicEnv (s : Settings) (name : String) : Bool :=
  name == "NODE_ENV" || s.inspection.publicEnvPrefixes.any (Text.leads · name)

end Survey
