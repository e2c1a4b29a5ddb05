import Survey.Graph.Cycles
import Survey.Inspection.Inspector

/-!
Reports of import cycles. A cycle of one or two modules is an error.
-/
namespace Survey.CircularImports

def id : String :=
  "circular-deps"

def finding (cycle : List String) : Finding :=
  let size := cycle.length - 1
  let isShort := size ≤ 2
  { inspector := id
    severity := if isShort then .error else .warning
    title := s!"Circular dependency ({size} files)"
    message := "Import cycle: " ++ " → ".intercalate cycle
    file := cycle.head?
    suggestion := some <|
      if isShort then "Break the cycle by extracting shared types or utils into a separate file"
      else "Introduce an interface or move the shared piece into its own module to break the chain" }

def inspector : Inspector where
  id := id
  name := "Circular Dependencies"
  description := "Detects import cycles with a three-color depth-first search"
  tier := .free
  inspect g _ := .reported ((Cycles.find g.ids g.arcs).map finding)

end Survey.CircularImports
