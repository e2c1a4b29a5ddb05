import Survey.Project.FileTree
import Survey.Settings.Read
import Survey.Settings.Validate

/-!
Settings files of a project.
-/
namespace Survey.Settings

def fileNames : List String :=
  ["archlens.yaml", "archlens.yml", ".archlens.yaml"]

def load (t : FileTree) (base : Place) (path : String) : Except SettingsFault Settings := do
  let text ← (t.readText base path).mapError fun cause => .unreadable path cause.message
  if Text.trimmed text = "" then return {}
  match parse? text with
  | some s => .ok s
  | none => .error (.invalidYaml path)

def discover (t : FileTree) (root : Place) : Except SettingsFault Settings :=
  match fileNames.find? (t.isFile root) with
  | some name => load t root (Path.behind root.path name)
  | none => .ok {}

end Survey.Settings
