import Survey.Graph.Degrees
import Survey.Inspection.Inspector

/-!
Modules that many others hang on: by arcs in and out, hub components, and bridges between both
sides.
-/
namespace Survey.Impact

def id : String :=
  "impact-analyzer"

def ofDegree (limits : Thresholds) (file : String) (d : Degree) : List Finding :=
  let fanIn := d.fanIn
  let fanOut := d.fanOut
  let maxIn := limits.maxFanIn
  let maxOut := limits.maxFanOut
  (if fanIn > maxIn && !Text.endsIn file ".d.ts" then
    [{ inspector := id
       severity := .info
       title := "High-impact file (fan-in)"
       message := s!"{fanIn} imports target this file (threshold: {maxIn}); changes here have a wide blast radius"
       file := some file
       suggestion := some "Test thoroughly when modifying this file" }]
  else []) ++
  (if fanOut > maxOut then
    [{ inspector := id
       severity := .info
       title := "High coupling (fan-out)"
       message := s!"File has {fanOut} imports of project modules (threshold: {maxOut})"
       file := some file
       suggestion := some "Reduce dependencies or split the file" }]
  else [])

/-- A component that many use and that renders many. -/
def isHub (limits : Thresholds) (c : Component) : Bool :=
  c.usedBy.length > limits.hubUsers && c.renders.length > limits.hubRenders

def hub (c : Component) : Finding :=
  let name := c.name
  let users := c.usedBy.length
  let count := c.renders.length
  { inspector := id
    severity := .warning
    title := "Hub component"
    message := s!"`{name}` is used by {users} files and renders {count} children"
    file := some c.file
    suggestion := some
      "Changes propagate both up and down the component tree; keep its interface stable" }

def isBridge (limits : Thresholds) (d : Degree) : Bool :=
  d.fanIn > limits.bridgeDegree && d.fanOut > limits.bridgeDegree

def bridge (file : String) (d : Degree) : Finding :=
  let fanIn := d.fanIn
  let fanOut := d.fanOut
  { inspector := id
    severity := .info
    title := "Bridge file"
    message := s!"File links {fanIn} dependents to {fanOut} dependencies; removing it would likely disconnect parts of the graph"
    file := some file
    suggestion := some "Keep its responsibilities narrow and well documented" }

def report (g : Graph) (limits : Thresholds) : List Finding :=
  let degrees := Degree.table g.arcs
  let hubs := g.components.filter (isHub limits)
  let bridges := degrees.filter fun (file, d) =>
    isBridge limits d && !(hubs.map Component.file).contains file
  degrees.flatMap (fun (file, d) => ofDegree limits file d) ++ hubs.map hub ++
    bridges.map fun (file, d) => bridge file d

def inspector : Inspector where
  id := id
  name := "Impact Analyzer"
  description := "Identifies high fan-in and fan-out modules, hub components and bridge modules"
  tier := .pro
  inspect g s := .reported (report g s.inspection.thresholds)

end Survey.Impact
