import Survey.Facts.SingleFile

/-!
Reading of a file into the facts of a module. The extension decides how a file is read.
-/
namespace Survey

open Survey.Syntax

inductive Analyzer where
  | script
  | component
  deriving DecidableEq

namespace Analyzer

def language : Analyzer → String
  | .script => "typescript"
  | .component => "vue"

def extensions : Analyzer → List String
  | .script => ["ts", "tsx", "js", "jsx", "mts", "cts"]
  | .component => ["vue"]

def all : List Analyzer :=
  [.script, .component]

def ofExtension? (ext : String) : Option Analyzer :=
  all.find? fun a => a.extensions.contains ext

def handles (a : Analyzer) (ext : String) : Bool :=
  a.extensions.contains ext

def registered : List String :=
  all.flatMap extensions

end Analyzer

inductive FileFault where
  | unsupported (path : String)
  | invalidSyntax (path : String)
  deriving DecidableEq

def FileFault.message : FileFault → String
  | .unsupported path => "no analyzer handles " ++ path
  | .invalidSyntax path => "syntax error in " ++ path

def dialectOf (path : String) : Dialect :=
  if Text.endsIn path ".ts" || Text.endsIn path ".mts" || Text.endsIn path ".cts" then .plain
  else .markup

structure ScriptFile where
  path : String
  dialect : Dialect
  root : Tree
  /-- The text of the script; empty when its bytes are no text. -/
  text : String

namespace ScriptFile

def ofGlyphs (path : String) (dialect : Dialect) (gs : List Glyph)
    (parser : Parser := Script.parse?) : Except FileFault ScriptFile :=
  match parser dialect gs with
  | some root => .ok ⟨path, dialect, root, Glyph.text gs⟩
  | none => .error (.invalidSyntax path)

def ofText (path : String) (dialect : Dialect) (text : String) (parser : Parser := Script.parse?) :
    Except FileFault ScriptFile :=
  ofGlyphs path dialect (Glyph.ofText text) parser

def facts (f : ScriptFile) (resolver : Resolver) : Module :=
  ScriptFacts.ofTree f.path f.dialect f.root f.text resolver

end ScriptFile

namespace Analyzer

def scriptOf (a : Analyzer) (path : String) (bytes : List UInt8) (parser : Parser := Script.parse?) :
    Except FileFault ScriptFile :=
  match a with
  | .script => ScriptFile.ofGlyphs path (dialectOf path) (Glyph.ofBytes bytes) parser
  | .component =>
    let s := SingleFile.script (Text.Utf8.decodeLossy bytes)
    ScriptFile.ofText path s.dialect s.text parser

/-- The facts of a component, from its script and its template. -/
def componentFacts (path content : String) (resolver : Resolver) (parser : Parser := Script.parse?) :
    Except FileFault Module := do
  let s := SingleFile.script content
  let m := (← ScriptFile.ofText path s.dialect s.text parser).facts resolver
  return { m with
    elements := (m.elements ++ SingleFile.elements content).eraseDups
    renderKind := if s.setup then .client else m.renderKind
    roles := Role.select fun r => r == .component || (r != .library && m.roles.contains r)
    lineCount := Text.lineCount content }

def facts (a : Analyzer) (path content : String) (resolver : Resolver)
    (parser : Parser := Script.parse?) : Except FileFault Module :=
  match a with
  | .script => return (← ScriptFile.ofText path (dialectOf path) content parser).facts resolver
  | .component => componentFacts path content resolver parser

end Analyzer

def Module.read (content path : String) (resolver : Resolver) (parser : Parser := Script.parse?) :
    Except FileFault Module :=
  match Analyzer.ofExtension? (Path.extension path) with
  | some a => a.facts path content resolver parser
  | none => .error (.unsupported path)

end Survey
