import Survey.Inspection.Inspector

/-!
Limits on the size of files, the imports of components and the parts of pages.
-/
namespace Survey.SizeLimits

def id : String :=
  "architecture-guard"

def ofModule (limits : Thresholds) (m : Module) : List Finding :=
  let lines := m.lineCount
  let maxLines := limits.maxLines
  let name := m.displayName
  let imports := m.imports.length
  let maxImports := limits.maxDependencies
  (if lines > maxLines then
    [{ inspector := id
       severity := .warning
       title := "Oversized file"
       message := s!"File has {lines} lines (threshold: {maxLines})"
       file := some m.path
       suggestion := some "Split into smaller, focused modules" }]
  else []) ++
  (if m.has .component && imports > maxImports then
    [{ inspector := id
       severity := .warning
       title := "God component"
       message := s!"Component `{name}` has {imports} imports (threshold: {maxImports})"
       file := some m.path
       suggestion := some "Extract sub-components or use composition" }]
  else [])

def ofPage (limits : Thresholds) (p : Page) : List Finding :=
  let route := p.routePath
  let count := p.components.length
  let limit := limits.maxPageComponents
  if count > limit then
    [{ inspector := id
       severity := .info
       title := "Complex page"
       message := s!"Page `{route}` renders {count} components (threshold: {limit})"
       file := some p.file
       suggestion := some "Split into smaller sub-pages or extract sections" }]
  else []

def inspector : Inspector where
  id := id
  name := "Architecture Guard"
  description := "Flags oversized files, god components and overly complex pages (route auth is checked by security-scanner, pro)"
  tier := .free
  inspect g s := .reported <|
    g.modules.flatMap (ofModule s.inspection.thresholds) ++
      g.pages.flatMap (ofPage s.inspection.thresholds)

end Survey.SizeLimits
