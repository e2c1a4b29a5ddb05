import Survey.Graph.Basic

/-!
Import cycles. A depth-first search over the runtime arcs colours the modules: a white one is not
reached yet, a gray one is open, and a black one is finished. The open modules are on a stack, each
with the successors that it has not looked at yet, and a module entered from another has it as its
parent. An arc to a gray module closes a cycle, which the parents lead back along.
-/
namespace Survey.Cycles

/-- The modules that a module loads, ascending. -/
def successors (arcs : List Arc) (id : String) : List String :=
  Sorted.distinct ((arcs.filter fun a => a.source == id && a.kind.isRuntime).map Arc.target)

/-- How far a search is with a module. -/
inductive Colour where
  | white | gray | black
  deriving DecidableEq

/-- A search under way. -/
structure Descent where
  /-- The modules that are still to be tried as roots, ascending. -/
  roots : List String
  /-- Every module with its colour, ascending. -/
  colours : List (String × Colour)
  /-- The modules entered from another since the last root, with the other one. -/
  parents : List (String × String) := []
  /-- The open modules from the innermost out, with the successors still to look at. -/
  stack : List (String × List String) := []
  /-- The cycles found, each closed by its first module. -/
  found : List (List String) := []

/-- The way back from a module along the parents up to `v`, of at most `n` modules. A module without a
parent ends it as well. -/
def wayBack (parents : List (String × String)) (v : String) : Nat → String → List String
  | 0, _ => []
  | n + 1, current =>
    if current = v then []
    else
      match parents.lookup current with
      | some parent => current :: wayBack parents v n parent
      | none => [current]

/-- The cycle that an arc from `u` to the open module `v` closes. -/
def rebuild (parents : List (String × String)) (u v : String) : List String :=
  v :: (wayBack parents v (parents.length + 1) u).reverse ++ [v]

/-- What tells cycles apart: their members in any order. -/
def membersKey (cycle : List String) : String :=
  "|".intercalate (Sorted.distinct cycle)

/-- A cycle noted unless one with its members is. -/
def note (found : List (List String)) (cycle : List String) : List (List String) :=
  if found.any (membersKey · == membersKey cycle) then found else found ++ [cycle]

namespace Descent

/-- All modules white and to be tried. -/
def start (nodes : List String) : Descent where
  roots := nodes
  colours := nodes.map fun id => (id, .white)

def colour? (d : Descent) (id : String) : Option Colour :=
  d.colours.lookup id

def paint (d : Descent) (id : String) (c : Colour) : List (String × Colour) :=
  Sorted.insert Prod.fst (id, c) d.colours

def openRoot (next : String → List String) (d : Descent) (r : String) (rest : List String) : Descent :=
  { d with roots := rest, colours := d.paint r .gray, parents := [], stack := [(r, next r)] }

/-- Pass over a module that was reached before its turn as a root. -/
def skipRoot (d : Descent) (rest : List String) : Descent :=
  { d with roots := rest }

def finish (d : Descent) (u : String) (below : List (String × List String)) : Descent :=
  { d with colours := d.paint u .black, stack := below }

def enter (next : String → List String) (d : Descent) (u v : String) (rest : List String)
    (below : List (String × List String)) : Descent :=
  { d with
    colours := d.paint v .gray
    parents := (v, u) :: d.parents
    stack := (v, next v) :: (u, rest) :: below }

/-- Note the cycle that a successor of the innermost module closes. -/
def close (d : Descent) (u v : String) (rest : List String) (below : List (String × List String)) :
    Descent :=
  { d with stack := (u, rest) :: below, found := note d.found (rebuild d.parents u v) }

def pass (d : Descent) (u : String) (rest : List String) (below : List (String × List String)) :
    Descent :=
  { d with stack := (u, rest) :: below }

/-- One turn: try a root, look at one successor of the innermost module, or finish that module. -/
def step? (next : String → List String) (d : Descent) : Option Descent :=
  match d.stack with
  | [] =>
    match d.roots with
    | [] => none
    | r :: rest =>
      if d.colour? r = some .white then some (d.openRoot next r rest) else some (d.skipRoot rest)
  | (u, []) :: below => some (d.finish u below)
  | (u, v :: rest) :: below =>
    match d.colour? v with
    | some .white => some (d.enter next u v rest below)
    | some .gray => some (d.close u v rest below)
    | _ => some (d.pass u rest below)

/-- At most `n` turns. -/
def run (next : String → List String) : Nat → Descent → Descent
  | 0, d => d
  | n + 1, d =>
    match d.step? next with
    | some e => run next n e
    | none => d

end Descent

/-- The turns of a whole search: every module is tried as a root and finished, and every successor is
looked at. -/
def turns (next : String → List String) (nodes : List String) : Nat :=
  2 * nodes.length + (nodes.flatMap next).length

/-- The cycles among the given modules, each closed by its first module. -/
def find (ids : List String) (arcs : List Arc) : List (List String) :=
  let next := successors arcs
  let nodes := Sorted.distinct ids
  ((Descent.start nodes).run next (turns next nodes)).found

end Survey.Cycles
