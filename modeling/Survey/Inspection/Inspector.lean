import Survey.Graph.Basic
import Survey.Inspection.Finding
import Survey.Settings.Basic

/-!
Inspectors: named rules that read the graph of a project.
-/
namespace Survey

/-- How the work of an inspector ends. -/
inductive Outcome where
  | reported (findings : List Finding)
  /-- It gave up; the causes stand from the outermost in. -/
  | failed (causes : List String)
  /-- It broke off, where known with a text. -/
  | broken (text : Option String)

/-- A rule over the graph and the settings. -/
structure Inspector where
  id : String
  name : String
  description : String
  tier : Tier
  inspect : Graph → Settings → Outcome

namespace Inspector

def crash (i : Inspector) (cause : String) : Finding where
  inspector := i.id
  severity := .error
  title := "Agent crashed"
  message := i.name ++ " failed: " ++ cause

/-- The findings of an inspector; a fault is one of them. -/
def findings (i : Inspector) (g : Graph) (s : Settings) : List Finding :=
  match i.inspect g s with
  | .reported findings => findings
  | .failed causes => [i.crash (": ".intercalate causes)]
  | .broken text => [i.crash (text.getD "unknown panic")]

end Inspector

end Survey
