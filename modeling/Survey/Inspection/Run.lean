import Survey.Inspection.Registry
import Survey.License

/-!
A run of inspectors over a graph. Every inspector has one result, whatever becomes of the others.
-/
namespace Survey.Inspection

structure Selection where
  /-- The inspectors to run; all when empty. -/
  only : List String := []
  exclude : List String := []
  freeOnly : Bool := false

inductive SkipReason where
  | disabled
  | notSelected
  | freeOnly
  | excluded
  | excludedInSettings
  | unlicensed (detail : String)
  deriving DecidableEq

def SkipReason.message : SkipReason → String
  | .disabled => "agents disabled in config"
  | .notSelected => "not selected"
  | .freeOnly => "free-only run"
  | .excluded => "excluded by id"
  | .excludedInSettings => "excluded in config"
  | .unlicensed detail => s!"PRO license required ({detail})"

structure Result where
  inspector : String
  tier : Tier
  findings : List Finding
  isSkipped : Bool
  skipReason : Option SkipReason
  deriving DecidableEq

namespace Result

def skipped (i : Inspector) (reason : SkipReason) : Result where
  inspector := i.id
  tier := i.tier
  findings := []
  isSkipped := true
  skipReason := some reason

def executed (i : Inspector) (g : Graph) (s : Settings) : Result where
  inspector := i.id
  tier := i.tier
  findings := i.findings g s
  isSkipped := false
  skipReason := none

end Result

/-- Why an inspector is skipped, if it is; the first reason that holds counts. -/
def skipReason? (i : Inspector) (s : Settings) (selection : Selection)
    (license : License.Standing) : Option SkipReason :=
  if !s.inspection.enabled then some .disabled
  else if !selection.only.isEmpty && !selection.only.contains i.id then some .notSelected
  else if selection.freeOnly && i.tier == .pro then some .freeOnly
  else if selection.exclude.contains i.id then some .excluded
  else if s.inspection.exclude.contains i.id then some .excludedInSettings
  else if i.tier == .pro && !license.isValid then
    some (.unlicensed (license.message.getD "invalid license"))
  else none

def resultOf (g : Graph) (s : Settings) (selection : Selection) (license : License.Standing)
    (i : Inspector) : Result :=
  match skipReason? i s selection license with
  | some reason => .skipped i reason
  | none => .executed i g s

/-- The results of a run in the order of the inspectors, with their totals. -/
structure Summary where
  results : List Result
  total : Nat
  errors : Nat
  warnings : Nat
  infos : Nat
  ran : Nat
  skipped : Nat
  deriving DecidableEq

namespace Summary

def ofResults (results : List Result) : Summary :=
  let count (severity : Severity) : Nat :=
    (results.flatMap Result.findings).countP (·.severity == severity)
  let skipped := results.countP Result.isSkipped
  { results
    total := count .error + count .warning + count .info
    errors := count .error
    warnings := count .warning
    infos := count .info
    ran := results.length - skipped
    skipped }

def findings (s : Summary) : List Finding :=
  s.results.flatMap Result.findings

/-- Whether a check that looks for errors fails. -/
def hasErrors (s : Summary) : Bool :=
  s.errors > 0

end Summary

def run (inspectors : List Inspector) (g : Graph) (s : Settings) (selection : Selection)
    (license : License.Standing) : Summary :=
  .ofResults (inspectors.map (resultOf g s selection license))

end Survey.Inspection
