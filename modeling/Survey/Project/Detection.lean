import Survey.Json.Read
import Survey.Project.FileTree
import Survey.Project.Framework

/-!
The framework of a project, from the files at its root and the packages it depends on.
-/
namespace Survey

/-- A framework with the signs of it, and how sure they are in percent. -/
structure Detection where
  framework : Framework := .auto
  confidence : Nat := 0
  signals : List String := []
  deriving DecidableEq

namespace Detection

def configured (f : Framework) : Detection :=
  ⟨f, 100, ["configured"]⟩

/-- A sign that decides for a framework. -/
def settle (d : Detection) (found : Bool) (f : Framework) (confidence : Nat) (signal : String) :
    Detection :=
  if found then ⟨f, confidence, d.signals ++ [signal]⟩ else d

/-- A sign that only makes a detection surer. -/
def boost (d : Detection) : Option String → Detection
  | some signal =>
    { d with confidence := min (d.confidence + 20) 100, signals := d.signals ++ [signal] }
  | none => d

/-- The packages that a manifest names with their versions. Those for development come first, so
that a look-up finds them. -/
def dependenciesOf? (j : Json) : Option (List (String × String)) := do
  let r ← Record.ofJson? ["dependencies", "devDependencies"] j
  let used ← r.withDefault "dependencies" [] (Json.table? Json.string?)
  let forDevelopment ← r.withDefault "devDependencies" [] (Json.table? Json.string?)
  some (forDevelopment ++ used)

/-- The packages of a project; a manifest that cannot be read names none. -/
def dependencies (t : FileTree) (root : Place) : List (String × String) :=
  match t.readText root "package.json" with
  | .ok text => ((Json.parse? text).bind dependenciesOf?).getD []
  | .error _ => []

/-- The router of a project by its directories, with the sign of it. -/
def router? (t : FileTree) (root : Place) : Option (Framework × String) :=
  if ["app", "src/app"].any (t.has root) then some (.nextApp, "app/ directory found")
  else if ["pages", "src/pages"].any (t.has root) then some (.nextPages, "pages/ directory found")
  else none

/-- The detection from the files at the root of a project; a later sign wins. -/
def ofFiles (t : FileTree) (root : Place) : Detection :=
  let found (names : List String) : Bool := names.any (t.has root)
  let next : Detection :=
    if found ["next.config.js", "next.config.mjs", "next.config.ts"] then
      match router? t root with
      | some (f, signal) => ⟨f, 70, ["next.config found", signal]⟩
      | none => ⟨.auto, 40, ["next.config found"]⟩
    else {}
  ((next.settle (found ["nuxt.config.ts", "nuxt.config.js"]) .nuxt 80 "nuxt.config found").settle
    (found ["svelte.config.js"]) .svelteKit 80 "svelte.config.js found").settle
    (found ["remix.config.js", "app/root.tsx"]) .remix 70 "remix signals found"

/-- A detection made surer by the packages of a project. -/
def boostBy (d : Detection) (packages : List (String × String)) : Detection :=
  let uses (names : List String) : Bool := names.any fun name => (packages.lookup name).isSome
  let versioned (name : String) : Option String :=
    (packages.lookup name).map fun version => s!"{name}@{version} in dependencies"
  let kit := if uses ["@sveltejs/kit"] then some "@sveltejs/kit in dependencies" else none
  let remix :=
    if uses ["@remix-run/node", "@remix-run/react"] then some "remix packages in dependencies"
    else none
  [versioned "next", versioned "nuxt", kit, remix].foldl boost d

/-- The framework of a project. The package of a router decides where no file does. -/
def detect (t : FileTree) (root : Place) : Detection :=
  let packages := dependencies t root
  let d := (ofFiles t root).boostBy packages
  match router? t root with
  | some (f, signal) =>
    if d.framework = .auto ∧ (packages.lookup "next").isSome then
      { d with framework := f, signals := d.signals ++ [signal] }
    else d
  | none => d

end Detection

end Survey
