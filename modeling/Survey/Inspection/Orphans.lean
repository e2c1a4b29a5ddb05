import Survey.Inspection.Inspector

/-!
Modules that nothing imports, and exports that nothing uses.
-/
namespace Survey.Orphans

def id : String :=
  "dead-code"

/-- File names that frameworks load by convention. -/
def reservedStems : List String :=
  ["layout", "loading", "error", "global-error", "not-found", "template", "default", "route",
    "middleware", "instrumentation", "_app", "_document", "_error", "404", "500", "App", "app",
    "main"]

/-- Whether a module can be in use without being imported. -/
def isEntryPoint (m : Module) : Bool :=
  let stem := Path.stem m.path
  m.has .page || m.has .routeHandler || reservedStems.contains stem || stem == "index" ||
    Text.holds stem "config" || Text.endsIn m.path ".d.ts"

def orphan (m : Module) : Finding :=
  let name := m.displayName
  let (title, message, suggestion) :=
    match Role.primary m.roles with
    | .component =>
      ("Orphan component", s!"Component `{name}` is never imported or rendered by any other file",
        "Remove the file or restore the import")
    | .hook =>
      ("Orphan hook", s!"Hook `{name}` is never imported by any other file",
        "Remove the file or restore the import")
    | _ =>
      let count := m.exports.length
      ("Orphan lib file", s!"Lib file has {count} export(s) but is never imported",
        "Remove the file or restore imports")
  { inspector := id, severity := .warning, title, message, file := some m.path,
    suggestion := some suggestion }

def orphans (g : Graph) : List Finding :=
  (g.modules.filter fun m => (g.importers m.path).isEmpty && !isEntryPoint m).map orphan

/-- The name that a specifier takes from its module. -/
def importedName (specifier : String) : String :=
  String.ofList (Text.trim (Text.before " as ".toList specifier.toList))

def importedNames (g : Graph) : List String :=
  g.modules.flatMap fun m => m.imports.flatMap fun i => i.specifiers.map importedName

/-- The modules of which everything can be reached. -/
def namespaceTargets (g : Graph) : List String :=
  g.modules.flatMap fun m => (m.imports.filter Import.isNamespace).filterMap Import.resolved

def unusedExport (m : Module) (e : Export) : Finding :=
  let name := e.name
  let kind := e.kind.name
  { inspector := id
    severity := .info
    title := "Unused export"
    message := s!"Export `{name}` ({kind}) is never imported by any file in the project"
    file := some m.path
    suggestion := some "Remove the export or mark it as internal" }

/-- Whether the exports of a module are looked at one by one. -/
def isExamined (g : Graph) (m : Module) : Bool :=
  !(g.importers m.path).isEmpty && !m.has .page && !m.has .routeHandler &&
    !(namespaceTargets g).contains m.path

def unusedExports (g : Graph) : List Finding :=
  let names := importedNames g
  (g.modules.filter (isExamined g)).flatMap fun m =>
    (m.exports.filter fun e => e.kind != .default && !e.typeOnly && !names.contains e.name).map
      (unusedExport m)

def inspector : Inspector where
  id := id
  name := "Dead Code"
  description := "Finds modules nothing imports and exports nothing uses"
  tier := .free
  inspect g _ := .reported (orphans g ++ unusedExports g)

end Survey.Orphans
