import Survey.Inspection.CircularImports
import Survey.Inspection.Conventions
import Survey.Inspection.Drift
import Survey.Inspection.Exposure
import Survey.Inspection.Impact
import Survey.Inspection.Orphans
import Survey.Inspection.PageWeight
import Survey.Inspection.SizeLimits

/-!
All inspectors in the order they run.
-/
namespace Survey.Inspector

/-- The inspectors in the order they run, those for everyone first. -/
def registry : List Inspector :=
  [Orphans.inspector, CircularImports.inspector, SizeLimits.inspector, Exposure.inspector,
    Drift.inspector, PageWeight.inspector, Conventions.inspector, Impact.inspector]

def ofId? (id : String) : Option Inspector :=
  registry.find? (·.id == id)

end Survey.Inspector
