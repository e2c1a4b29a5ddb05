import Survey.Resolve.Aliases

/-!
The module that an import specifier means. A relative specifier is taken from the directory of the
importing module, any other goes through the aliases; what is found is tried as it is, then with
endings.
-/
namespace Survey

/-- The known modules of a project and its aliases. -/
structure Resolver where
  known : List String := []
  aliases : AliasTable := {}

namespace Resolver

/-- The endings that a specifier may leave out, in the order they are tried. -/
def endings : List String :=
  [".ts", ".tsx", ".js", ".jsx", ".mts", ".vue",
    "/index.ts", "/index.tsx", "/index.js", "/index.jsx"]

def contains (r : Resolver) (id : String) : Bool :=
  r.known.contains id

def dropSlashes (path : String) : String :=
  String.ofList (path.toList.dropWhile (· = '/'))

/-- The module at a place, as it is or with an ending. -/
def probe (r : Resolver) (base : String) : Option String :=
  if r.contains base then some base
  else ((endings.map (base ++ ·)).find? r.contains).map dropSlashes

def resolve (r : Resolver) (module specifier : String) : Option String :=
  if Text.leads "." specifier then
    (Path.normalize? (Path.directory module) specifier).bind r.probe
  else (r.aliases.candidates specifier).findSome? r.probe

end Resolver

end Survey
