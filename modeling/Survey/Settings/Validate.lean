import Survey.Glob.Match
import Survey.Glob.Parse
import Survey.Settings.Basic
import Survey.Text.Quoted

/-!
What can be wrong with settings.
-/
namespace Survey

inductive SettingsFault where
  | unreadable (path cause : String)
  | invalidYaml (path : String)
  | invalidGlob (pattern : String) (fault : GlobFault)
  | invalidThreshold (name : String)

def SettingsFault.message : SettingsFault → String
  | .unreadable path cause => s!"failed to read config {path}: {cause}"
  | .invalidYaml path => s!"invalid config YAML in {path}"
  | .invalidGlob pattern fault =>
    s!"invalid exclude pattern {Text.quoted pattern}: error parsing glob '{pattern}': {fault.message}"
  | .invalidThreshold name => s!"threshold {name} must be greater than zero"

namespace Settings

/-- The patterns of paths that are left out; the first that is none is the fault. -/
def exclusions (s : Settings) : Except SettingsFault (List Glob) :=
  s.exclude.mapM fun pattern => (Glob.parse pattern).mapError (.invalidGlob pattern)

def isExcluded (patterns : List Glob) (path : String) : Bool :=
  patterns.any (·.isMatch path)

/-- Settings must have patterns that can be read and limits above zero. -/
def validate (s : Settings) : Except SettingsFault Unit := do
  let _ ← s.exclusions
  match s.inspection.thresholds.entries.find? fun entry => entry.2 == 0 with
  | some (name, _) => .error (.invalidThreshold name)
  | none => .ok ()

end Settings

end Survey
