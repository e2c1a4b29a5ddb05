import Survey.Graph.Build
import Survey.Project.Detection
import Survey.Project.Discovery
import Survey.Schema.Locate
import Survey.Settings.Load

/-!
The analysis of a project. Every file that is found is a module of the graph or is left out for a
reason; one that is left out changes nothing for the others.
-/
namespace Survey

open Survey.Syntax

/-- Why a file of a project is no module. -/
inductive Analysis.Omission where
  | unreadable (cause : FileError)
  | faulty (fault : FileFault)
  deriving DecidableEq

def Analysis.Omission.message : Analysis.Omission → String
  | .unreadable cause => cause.message
  | .faulty fault => fault.message

structure Analysis.Skipped where
  path : String
  reason : Analysis.Omission
  deriving DecidableEq

structure Analysis where
  detection : Detection
  /-- The files that were found, modules or not. -/
  files : List String
  skipped : List Analysis.Skipped
  graph : Graph

namespace Analysis

inductive Fault where
  | inaccessible (path : String) (cause : FileError)
  | settings (fault : SettingsFault)

def Fault.message : Fault → String
  | .inaccessible path _ => "resolving project root " ++ path
  | .settings fault => fault.message

/-- The aliases of a project, from the first alias file at its root; one that cannot be read has
none. -/
def aliases (t : FileTree) (root : Place) : AliasTable :=
  match AliasTable.fileNames.find? (t.isFile root) with
  | some name =>
    match t.readText root name with
    | .ok text => (AliasTable.parse? text).getD {}
    | .error _ => {}
  | none => {}

/-- The module of a file, or why there is none. -/
def moduleOf (t : FileTree) (root : Place) (resolver : Resolver) (parser : Parser) (id : String) :
    Except Omission Module := do
  let text ← (t.readText root id).mapError .unreadable
  (Module.read text id resolver parser).mapError .faulty

/-- The modules among some files and the files that are none, both in order. -/
def partition (read : String → Except Omission Module) :
    List String → List Module × List Skipped
  | [] => ([], [])
  | id :: ids =>
    let (modules, skipped) := partition read ids
    match read id with
    | .ok m => (m :: modules, skipped)
    | .error reason => (modules, ⟨id, reason⟩ :: skipped)

/-- The framework that settings name, or the one that is detected. -/
def detectionFor (t : FileTree) (root : Place) (s : Settings) : Detection :=
  if s.framework = .auto then Detection.detect t root else .configured s.framework

def ofProject (t : FileTree) (root : Place) (s : Settings) (parser : Parser := Script.parse?) :
    Except SettingsFault Analysis := do
  s.validate
  let files ← Discovery.files t root s
  let resolver : Resolver := ⟨files, aliases t root⟩
  let (modules, skipped) := partition (moduleOf t root resolver parser) files
  return {
    detection := detectionFor t root s
    files := files
    skipped := skipped
    graph := Graph.build modules (Schema.ofProject t root s.schema parser) }

def ofPath (t : FileTree) (base : Place) (path : String) (s : Settings)
    (parser : Parser := Script.parse?) : Except Fault Analysis := do
  let (root, _) ← (t.find base path).mapError (.inaccessible path)
  (ofProject t root s parser).mapError .settings

end Analysis

end Survey
