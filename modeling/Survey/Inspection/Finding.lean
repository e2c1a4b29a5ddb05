import Survey.Text.Case

/-!
What inspectors report.
-/
namespace Survey

inductive Severity where
  | error | warning | info
  deriving DecidableEq

namespace Severity

def name : Severity → String
  | .error => "error"
  | .warning => "warning"
  | .info => "info"

def ofName? (name : String) : Option Severity :=
  [.error, .warning, .info].find? (·.name == Text.lowercase name)

def unknown (name : String) : String :=
  "unknown severity: " ++ name

end Severity

/-- Who may run an inspector. -/
inductive Tier where
  | free | pro
  deriving DecidableEq

def Tier.name : Tier → String
  | .free => "free"
  | .pro => "pro"

structure Finding where
  /-- The inspector that reports it. -/
  inspector : String
  severity : Severity
  title : String
  message : String
  file : Option String := none
  suggestion : Option String := none
  deriving DecidableEq

/-- What identifies a finding across runs. -/
def Finding.key (f : Finding) : String :=
  "|".intercalate [f.inspector, f.file.getD "", f.title, f.message]

end Survey
