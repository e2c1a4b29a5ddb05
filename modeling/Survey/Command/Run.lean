import Survey.Command.Arguments
import Survey.Report.Structured
import Survey.Report.Terminal
import Survey.Text.Quoted

/-!
What the command does with a tree of files. It reads the tree, and the one file it writes is the
snapshot that it is given.
-/
namespace Survey.Command

open Survey.Syntax

/-- What a run finds around it. -/
structure Session where
  tree : FileTree
  /-- The working directory. -/
  here : Place
  /-- The license of the environment; an empty one is none. -/
  license : Option String := none
  today : Date
  now : Instant
  colors : Bool := false

/-- What a run leaves behind. -/
structure Outcome where
  exitCode : Nat
  output : String := ""
  errors : String := ""
  tree : FileTree

inductive Fault where
  | inaccessible (path : String) (cause : FileError)
  | notDirectory (place : Place)
  | settings (fault : SettingsFault)
  | unknownAgents (ids : List String)
  | analysis (fault : SettingsFault)
  | snapshot (fault : Snapshot.Fault)

def Fault.lines : Fault → List String
  | .inaccessible path cause => [s!"Error: cannot access path {Text.quotedPath path}: {cause.message}"]
  | .notDirectory place => ["Error: " ++ place.path ++ " is not a directory"]
  | .settings fault =>
    ["Error: " ++ fault.message,
      "Config files are looked up as " ++ Text.join ", " Settings.fileNames]
  | .unknownAgents ids =>
    ["Error: unknown agent id(s): " ++ Text.join ", " ids,
      "Run 'archlens agents' to list available agents"]
  | .analysis fault => ["Error: " ++ fault.message]
  | .snapshot fault => ["Error: " ++ fault.message]

def unlines (lines : List String) : String :=
  Text.join "" (lines.map (· ++ "\n"))

def rootOf (s : Session) (a : Arguments) : Except Fault Place :=
  match s.tree.find s.here a.path with
  | .ok (place, .directory) => .ok place
  | .ok (place, .file _) => .error (.notDirectory place)
  | .error cause => .error (.inaccessible a.path cause)

/-- The license that counts instead of the one in the settings. -/
def licenseOf (s : Session) (a : Arguments) : Option String :=
  a.license <|> s.license.filter (· ≠ "")

def settingsOf (s : Session) (a : Arguments) (root : Place) : Except SettingsFault Settings := do
  let settings ←
    match a.config with
    | some path => Settings.load s.tree s.here path
    | none => Settings.discover s.tree root
  settings.validate
  match licenseOf s a with
  | some license =>
    return { settings with inspection := { settings.inspection with license := some license } }
  | none => return settings

def unknownAgents (a : Arguments) : List String :=
  (a.agents ++ a.excludeAgents).filter fun id => (Inspector.ofId? id).isNone

/-- What the inspectors that are asked for find in an analysed project. -/
def inspect (s : Session) (a : Arguments) (settings : Settings) (analysis : Analysis) :
    Inspection.Summary :=
  Inspection.run Inspector.registry analysis.graph settings ⟨a.agents, a.excludeAgents, a.freeOnly⟩
    (License.check settings.inspection.license s.today)

def study (s : Session) (a : Arguments) (parser : Parser := Script.parse?) :
    Except Fault (Place × Analysis × Inspection.Summary) := do
  let root ← rootOf s a
  let settings ← (settingsOf s a root).mapError .settings
  if !(unknownAgents a).isEmpty then throw (.unknownAgents (unknownAgents a))
  let analysis ← (Analysis.ofProject s.tree root settings parser).mapError .analysis
  return (root, analysis, inspect s a settings analysis)

/-- The snapshot of an earlier run, if there is one, and that of the analysed files. -/
def snapshots (s : Session) (root : Place) (analysis : Analysis) (path : String) :
    Except Snapshot.Fault (Option Snapshot × Snapshot) := do
  let previous ← Snapshot.load? s.tree s.here path
  let current ← Snapshot.capture s.tree root analysis.graph.ids s.now
    analysis.detection.framework analysis.graph.stats
  return (previous, current)

/-- Compare the analysed files with those of an earlier run and keep them for a later one. The tree
is the one that is left, also where this fails. -/
def refreshSnapshot (s : Session) (root : Place) (analysis : Analysis) (path : String) :
    FileTree × Except Snapshot.Fault (Option Snapshot.Diff) :=
  match snapshots s root analysis path with
  | .error fault => (s.tree, .error fault)
  | .ok (previous, current) =>
    match current.keep s.tree s.here path with
    | (tree, none) => (tree, .ok (previous.map current.diff))
    | (tree, some fault) => (tree, .error fault)

/-- The report of an analysis. The tree is the one that is left, also where there is no report. -/
def survey (s : Session) (a : Arguments) (parser : Parser := Script.parse?) :
    FileTree × Except Fault Report :=
  match study s a parser with
  | .error fault => (s.tree, .error fault)
  | .ok (root, analysis, summary) =>
    match a.snapshot with
    | none => (s.tree, .ok ⟨a.path, analysis, summary, none⟩)
    | some path =>
      match refreshSnapshot s root analysis path with
      | (tree, .ok changes) => (tree, .ok ⟨a.path, analysis, summary, changes⟩)
      | (tree, .error fault) => (tree, .error (.snapshot fault))

def write (s : Session) (format : Format) (r : Report) : String :=
  match format with
  | .terminal => r.terminal s.colors
  | .structured => r.structured

/-- Analyse a project. The exit code tells whether errors were found. -/
def runAnalysis (s : Session) (a : Arguments) (parser : Parser := Script.parse?) : Outcome :=
  match survey s a parser with
  | (tree, .ok report) =>
    { exitCode := if report.summary.hasErrors then 1 else 0
      output := write s a.format report
      tree := tree }
  | (tree, .error fault) => { exitCode := 2, errors := unlines fault.lines, tree := tree }

def agentList : String :=
  unlines (["Available agents:", ""] ++
    Inspector.registry.map (fun i =>
      "  " ++ Report.pad 22 i.id ++ " " ++ Report.pad 5 i.tier.name ++ " " ++ i.description) ++
    ["", "Usage:", "  archlens analyze <path> --agents <id,id>"])

def run (s : Session) (c : Command) (parser : Parser := Script.parse?) : Outcome :=
  match c with
  | .analyze a => runAnalysis s a parser
  | .agents => { exitCode := 0, output := agentList, tree := s.tree }

end Survey.Command
