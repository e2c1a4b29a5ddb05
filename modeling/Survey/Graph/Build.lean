import Survey.Graph.Basic
import Survey.Resolve.Resolver

/-!
The graph of a list of modules. Of two records with one path the first counts; an import makes an
arc when it names a module of the list. The users of modules are gathered from the arcs before any
module is added, so that the records of a module can have them.
-/
namespace Survey.Graph

/-- The module of the list that an import means: the one found before, else a relative one. -/
def target? (ids : List String) (m : Module) (i : Import) : Option String :=
  let relative := if i.isRelative then Resolver.resolve { known := ids } m.path i.source else none
  match i.resolved with
  | some id => if ids.contains id then some id else relative
  | none => relative

def arcsFrom (ids : List String) (m : Module) : List Arc :=
  m.imports.filterMap fun i =>
    (target? ids m i).map fun target => { source := m.path, target, kind := .ofImport i }

/-- An index with one arc more, whose source is entered behind the other users of its target. -/
def record (index : List (String × List String)) (arc : Arc) : List (String × List String) :=
  Sorted.change [] (· ++ [arc.source]) arc.target index

/-- The targets of arcs, each with the modules that use it in order and without repeats. -/
def reverseIndex (arcs : List Arc) : List (String × List String) :=
  (arcs.foldl record []).map fun entry => (entry.1, (Sorted.sort entry.2).eraseReps)

/-- A graph with one module more, and a record of it for each of its roles. -/
def add (index : List (String × List String)) (g : Graph) (m : Module) : Graph :=
  let users := (index.lookup m.path).getD []
  { g with
    modules := g.modules ++ [m]
    pages := if m.has .page then g.pages ++ [.ofModule m] else g.pages
    routes := if m.has .routeHandler then g.routes ++ [.ofModule m] else g.routes
    components :=
      if m.has .component || m.has .hook then g.components ++ [.ofModule m users] else g.components
    libraries := if m.has .library then g.libraries ++ [.ofModule m users] else g.libraries }

def build (modules : List Module) (schema : Schema) : Graph :=
  let kept := Sorted.ofList Module.path modules
  let arcs := kept.flatMap (arcsFrom (kept.map Module.path))
  let index := reverseIndex arcs
  { kept.foldl (add index) { arcs, schema } with usedBy := index }

end Survey.Graph
