import Survey.Inspection.Run
import Survey.Project.Analysis
import Survey.Snapshot

/-!
What a run reports.
-/
namespace Survey

/-- The analysis of a project, the run over it and the changes since an earlier run. -/
structure Report where
  /-- The path of the project as it was given. -/
  path : String
  analysis : Analysis
  summary : Inspection.Summary
  changes : Option Snapshot.Diff := none

namespace Report

def version : String :=
  "0.1.0"

def pad (width : Nat) (text : String) : String :=
  text ++ String.ofList (List.replicate (width - text.length) ' ')

end Report

end Survey
