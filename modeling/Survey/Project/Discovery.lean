import Survey.Facts.Read
import Survey.Project.FileTree
import Survey.Settings.Validate
import Survey.Sorted

/-!
The files of a project that are analysed.
-/
namespace Survey.Discovery

/-- Installed packages, which are never looked into. -/
def packageDirectory : String :=
  "node_modules"

/-- Whether no name on a way is hidden or that of installed packages. -/
def isVisible (way : Place) : Bool :=
  way.all fun name => !Text.leads "." name && name ≠ packageDirectory

/-- Whether a file is read for facts, by its path. -/
def isSource (includeVue : Bool) (id : String) : Bool :=
  let ext := Path.afterPoint id
  !Text.endsIn id ".d.ts" && (includeVue || ext ≠ "vue") && Analyzer.registered.contains ext

/-- The paths of the files of a project that are analysed, in ascending order. -/
def files (t : FileTree) (root : Place) (s : Settings) : Except SettingsFault (List String) := do
  let excluded ← s.exclusions
  if root.getLast? = some packageDirectory then return []
  let ids := ((t.filesBelow root).filter isVisible).map (Text.join "/")
  return Sorted.sort (ids.filter fun id =>
    isSource s.includeVue id && !Settings.isExcluded excluded id)

end Survey.Discovery
