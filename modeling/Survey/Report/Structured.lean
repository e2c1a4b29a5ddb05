import Survey.Json.Write
import Survey.Report.Basic

/-!
Reports as JSON. What is missing is left out, and no times are taken.
-/
namespace Survey.Report

/-- A member with a text, if there is one. -/
def present (name : String) : Option String → List (String × Json)
  | some text => [(name, .ofString text)]
  | none => []

def detectionJson (d : Detection) : Json :=
  .ofMembers [("framework", .ofString d.framework.name), ("confidence", .ofNat d.confidence),
    ("signals", .ofStrings d.signals)]

def skippedJson (s : Analysis.Skipped) : Json :=
  .ofMembers [("path", .ofString s.path), ("reason", .ofString s.reason.message)]

def changesJson (d : Snapshot.Diff) : Json :=
  .ofMembers [("added", .ofStrings d.added), ("removed", .ofStrings d.removed),
    ("modified", .ofStrings d.modified), ("unchanged", .ofStrings d.unchanged)]

def findingJson (f : Finding) : Json :=
  .ofMembers ([("agentId", .ofString f.inspector), ("severity", .ofString f.severity.name),
    ("title", .ofString f.title)] ++ present "file" f.file ++ [("message", .ofString f.message)] ++
    present "suggestion" f.suggestion)

def resultJson (r : Inspection.Result) : Json :=
  .ofMembers ([("agentId", .ofString r.inspector), ("tier", .ofString r.tier.name),
    ("findings", .array (r.findings.map findingJson)), ("durationMs", .ofNat 0),
    ("skipped", .bool r.isSkipped)] ++
    present "skipReason" (r.skipReason.map Inspection.SkipReason.message))

def summaryJson (s : Inspection.Summary) : Json :=
  .ofMembers [("results", .array (s.results.map resultJson)), ("totalFindings", .ofNat s.total),
    ("errors", .ofNat s.errors), ("warnings", .ofNat s.warnings), ("infos", .ofNat s.infos),
    ("agentsRan", .ofNat s.ran), ("agentsSkipped", .ofNat s.skipped),
    ("totalDurationMs", .ofNat 0)]

def toJson (r : Report) : Json :=
  let a := r.analysis
  let skipped := if a.skipped.isEmpty then [] else [("skipped", .array (a.skipped.map skippedJson))]
  let changes := (r.changes.map fun d => ("changes", changesJson d)).toList
  .ofMembers ([("version", .ofString version), ("path", .ofString r.path),
    ("framework", detectionJson a.detection), ("filesScanned", .ofNat a.files.length),
    ("stats", Snapshot.statsJson a.graph.stats)] ++ skipped ++ changes ++
    [("summary", summaryJson r.summary)])

def structured (r : Report) : String :=
  r.toJson.pretty ++ "\n"

end Survey.Report
