import Survey.Report.Basic

/-!
Reports for a terminal, with colours or without them. No times are taken.
-/
namespace Survey.Report

inductive Style where
  | title | strong | faint | red | green | yellow | blue

/-- The numbers that a terminal knows a style by. -/
def Style.codes : Style → String
  | .title => "1;36"
  | .strong => "1"
  | .faint => "2"
  | .red => "31"
  | .green => "32"
  | .yellow => "33"
  | .blue => "34"

def plain : String :=
  "\x1b[0m"

/-- A text in a style, filled up to a width. A style that ends inside it is taken up again. -/
def drawColumn (width : Nat) (colors : Bool) (style : Style) (text : String) : String :=
  let start := "\x1b[" ++ style.codes ++ "m"
  if colors then start ++ pad width (text.replace plain (plain ++ start)) ++ plain
  else pad width text

def draw (colors : Bool) (style : Style) (text : String) : String :=
  drawColumn 0 colors style text

def plural (n : Nat) (noun : String) : String :=
  if n = 1 then s!"{n} {noun}" else s!"{n} {noun}s"

def severityTag (colors : Bool) : Severity → String
  | .error => draw colors .red "ERROR"
  | .warning => draw colors .yellow "WARN "
  | .info => draw colors .blue "INFO "

def findingLines (colors : Bool) (f : Finding) : List String :=
  let place :=
    match f.file with
    | some file => "  " ++ draw colors .blue file
    | none => ""
  let suggestion :=
    match f.suggestion with
    | some text => ["            " ++ draw colors .faint ("→ " ++ text)]
    | none => []
  ["    " ++ severityTag colors f.severity ++ " " ++ f.title ++ place,
    "            " ++ f.message] ++ suggestion

def resultLines (colors : Bool) (r : Inspection.Result) : List String :=
  if r.isSkipped then
    let reason := (r.skipReason.map Inspection.SkipReason.message).getD ""
    ["  " ++ draw colors .faint "-" ++ " " ++ drawColumn 22 colors .faint r.inspector ++ " " ++
      draw colors .faint ("skipped: " ++ reason)]
  else
    let mark :=
      if r.findings.any (·.severity == .error) then draw colors .red "✗" else draw colors .green "✓"
    ("  " ++ mark ++ " " ++ drawColumn 22 colors .strong r.inspector ++ " " ++
      plural r.findings.length "finding" ++ " (0 ms)") :: r.findings.flatMap (findingLines colors)

def skippedLines (colors : Bool) (skipped : List Analysis.Skipped) : List String :=
  if skipped.isEmpty then []
  else
    let count := skipped.length
    ("  " ++ draw colors .yellow "Skipped files" ++ s!" ({count}):") ::
      skipped.map (fun s => "    " ++ draw colors .blue s.path ++ "  " ++
        draw colors .faint s.reason.message) ++ [""]

def changesLines (colors : Bool) : Option Snapshot.Diff → List String
  | some d =>
    let (added, removed, modified, unchanged) :=
      (d.added.length, d.removed.length, d.modified.length, d.unchanged.length)
    ["  " ++ draw colors .strong "Since last run:" ++
      s!"  {added} added, {removed} removed, {modified} modified, {unchanged} unchanged", ""]
  | none => []

def headLines (colors : Bool) (r : Report) : List String :=
  let a := r.analysis
  let s := a.graph.stats
  let (name, files) := (a.detection.framework.name, a.files.length)
  ["", "  " ++ draw colors .title "archlens" ++ " v" ++ version, "",
    "  " ++ draw colors .faint "Project:   " ++ r.path,
    "  " ++ draw colors .faint "Framework: " ++ s!"{name} ({a.detection.confidence}% confidence)",
    "  " ++ draw colors .faint "Graph:     " ++
      s!"{files} files, {s.modules} modules, {s.edges} edges, {s.entities} entities",
    "  " ++ draw colors .faint "           " ++
      s!"{s.pages} pages, {s.components} components, {s.routes} routes, {s.libraries} libraries",
    ""]

def statusLine (colors : Bool) (s : Inspection.Summary) : String :=
  let count (n : Nat) : String := String.ofList (Nat.toDigits 10 n)
  "  " ++ draw colors .faint s!"{s.ran} ran, {s.skipped} skipped, 0 ms" ++ "  " ++
    draw colors .red (count s.errors) ++ " errors  " ++
    draw colors .yellow (count s.warnings) ++ " warnings  " ++
    draw colors .blue (count s.infos) ++ " infos  " ++
    if s.hasErrors then draw colors .red "FAILED" else draw colors .green "PASSED"

def terminal (colors : Bool) (r : Report) : String :=
  let lines := headLines colors r ++ skippedLines colors r.analysis.skipped ++
    changesLines colors r.changes ++ r.summary.results.flatMap (resultLines colors) ++
    ["", statusLine colors r.summary, ""]
  Text.join "" (lines.map (· ++ "\n"))

end Survey.Report
