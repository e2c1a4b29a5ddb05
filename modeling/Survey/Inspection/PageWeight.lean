import Survey.Inspection.Inspector

/-!
Heavy pages, and client components that need not be.
-/
namespace Survey.PageWeight

def id : String :=
  "performance-sentinel"

def ofPage (g : Graph) (limits : Thresholds) (p : Page) : List Finding :=
  let route := p.routePath
  let imports := ((g.module? p.file).map fun m => m.imports.length).getD 0
  let maxImports := limits.maxPageImports
  let calls := p.apiCalls.length
  let maxCalls := limits.maxPageCalls
  (if imports > maxImports then
    [{ inspector := id
       severity := .warning
       title := "Heavy page"
       message := s!"Page `{route}` has {imports} imports (threshold: {maxImports})"
       file := some p.file
       suggestion :=
         some "Lazy-load non-critical components with dynamic() or React.lazy()" }]
  else []) ++
  (if calls > maxCalls then
    [{ inspector := id
       severity := .warning
       title := "API call waterfall risk"
       message := s!"Page `{route}` makes {calls} API calls (threshold: {maxCalls})"
       file := some p.file
       suggestion := some "Consolidate the calls or fetch in parallel with Promise.all" }]
  else [])

/-- Whether a component does anything that only a browser can. -/
def needsClient (c : Component) : Bool :=
  !c.hooks.isEmpty || !c.state.isEmpty || !c.apiCalls.isEmpty || !c.sideEffects.isEmpty

def ofComponent (limits : Thresholds) (c : Component) : List Finding :=
  let name := c.name
  let count := c.renders.length
  let limit := limits.maxRenders
  (if c.renderKind == .client && !needsClient c then
    [{ inspector := id
       severity := .warning
       title := "Unnecessary client component"
       message := s!"`{name}` is a client component but uses no hooks, state, calls or side effects"
       file := some c.file
       suggestion := some "Remove \"use client\" to render it on the server" }]
  else []) ++
  (if count > limit then
    [{ inspector := id
       severity := .info
       title := "Component with many children"
       message := s!"`{name}` renders {count} child components (threshold: {limit})"
       file := some c.file
       suggestion := some "Split the component or extract sub-sections" }]
  else [])

def inspector : Inspector where
  id := id
  name := "Performance Sentinel"
  description := "Detects heavy pages, needless client components and API call waterfalls"
  tier := .pro
  inspect g s := .reported <|
    g.pages.flatMap (ofPage g s.inspection.thresholds) ++
      g.components.flatMap (ofComponent s.inspection.thresholds)

end Survey.PageWeight
