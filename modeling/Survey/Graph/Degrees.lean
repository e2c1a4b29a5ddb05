import Survey.Graph.Basic

/-!
How many arcs enter and leave the modules of a graph. Equal arcs count each.
-/
namespace Survey

/-- The arcs at a module. -/
structure Degree where
  fanIn : Nat
  fanOut : Nat
  deriving DecidableEq

namespace Degree

def ofArcs (arcs : List Arc) (id : String) : Degree where
  fanIn := arcs.countP (·.target == id)
  fanOut := arcs.countP (·.source == id)

/-- The degrees of all ends of arcs, ascending. -/
def table (arcs : List Arc) : List (String × Degree) :=
  (Sorted.distinct (arcs.flatMap fun a => [a.target, a.source])).map fun id => (id, ofArcs arcs id)

end Degree

end Survey
