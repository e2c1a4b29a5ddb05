import Survey.Json.Lenient
import Survey.Json.Read
import Survey.Project.Path

/-!
Path aliases: import specifiers that stand for places in the project. An alias with a star stands
for every specifier that begins as it does.
-/
namespace Survey

open Survey

structure Alias where
  /-- The text before the star, or the whole alias. -/
  lead : String
  /-- Whether the alias has a star. -/
  wildcard : Bool
  targets : List String
  deriving DecidableEq

namespace Alias

def ofPattern (pattern : String) (targets : List String) : Alias :=
  match Text.cut (· = '*') pattern.toList with
  | (lead, some _) => ⟨String.ofList lead, true, targets⟩
  | (_, none) => ⟨pattern, false, targets⟩

/-- Longer aliases come first, and equally long ones in order. -/
def before (a b : Alias) : Bool :=
  b.lead.utf8ByteSize < a.lead.utf8ByteSize ||
    (a.lead.utf8ByteSize == b.lead.utf8ByteSize && decide (a.lead ≤ b.lead))

/-- A target with its first star replaced. -/
def fill (rest target : String) : String :=
  match Text.cut (· = '*') target.toList with
  | (lead, some tail) => String.ofList lead ++ rest ++ String.ofList tail
  | (_, none) => target

/-- The places that an alias gives for a specifier. -/
def expand (a : Alias) (specifier : String) : List String :=
  if a.wildcard then
    match Text.dropLeading? a.lead specifier with
    | some rest => a.targets.map (fill rest)
    | none => []
  else if specifier = a.lead then a.targets
  else []

end Alias

/-- The aliases of a project and the directory that bare specifiers start from. -/
structure AliasTable where
  baseUrl : Option String := none
  entries : List Alias := []
  deriving DecidableEq

namespace AliasTable

def insert (t : AliasTable) (pattern : String) (targets : List String) : AliasTable :=
  { t with entries := (t.entries ++ [Alias.ofPattern pattern targets]).mergeSort Alias.before }

def size (t : AliasTable) : Nat :=
  t.entries.length

def isEmpty (t : AliasTable) : Bool :=
  t.entries.isEmpty && t.baseUrl.isNone

/-- The places that a bare specifier may mean, in the order they are tried. -/
def candidates (t : AliasTable) (specifier : String) : List String :=
  t.entries.flatMap (·.expand specifier) ++
    (t.baseUrl.bind fun base => Path.normalize? base specifier).toList

structure Options where
  baseUrl : Option String
  paths : List (String × List String)
  deriving DecidableEq

def Options.ofJson? (j : Json) : Option Options := do
  let r ← Record.ofJson? ["baseUrl", "paths"] j
  let baseUrl ← r.optional "baseUrl" Json.string?
  let paths ← r.withDefault "paths" [] (Json.table? (Json.list? Json.string?))
  some ⟨baseUrl, paths⟩

/-- The table that options describe. Targets are taken from the base directory, and those outside
the project are left out. -/
def ofOptions (o : Options) : AliasTable :=
  let base := o.baseUrl.bind (Path.normalize? "")
  o.paths.foldl (fun t (pattern, targets) =>
    t.insert pattern (targets.filterMap (Path.normalize? (base.getD "")))) ⟨base, []⟩

def ofJson? (j : Json) : Option AliasTable := do
  let r ← Record.ofJson? ["compilerOptions"] j
  let options ← r.withDefault "compilerOptions" none (Json.optional? Options.ofJson?)
  some ((options.map ofOptions).getD {})

/-- The table that a project file describes; comments and last commas are allowed. -/
def parse? (text : String) : Option AliasTable :=
  (Json.parse? (String.ofList
    (Json.Lenient.dropLastCommas (Json.Lenient.stripComments text.toList)))).bind ofJson?

/-- The project files that aliases are read from, in order. -/
def fileNames : List String :=
  ["tsconfig.json", "jsconfig.json"]

end AliasTable

end Survey
