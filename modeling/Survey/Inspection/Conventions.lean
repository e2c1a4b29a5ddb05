import Survey.Inspection.Inspector

/-!
Conventions on names and on consistency: hook files, authentication, route segments and index
files.
-/
namespace Survey.Conventions

def id : String :=
  "convention-enforcer"

/-- Hyphens dropped and the character after them in upper case. -/
def camel : Bool → List Char → List Char
  | _, [] => []
  | raised, c :: cs =>
    if c = '-' then camel true cs
    else (if raised then Text.upper c else [c]) ++ camel false cs

def camelCase (name : String) : String :=
  String.ofList (camel false name.toList)

def hookName? (m : Module) : Option Finding :=
  let stem := Path.stem m.path
  let hooks := (m.exports.map Export.name).filter Naming.isHook
  match hooks with
  | [] => none
  | first :: _ =>
    if !m.has .hook || stem == "index" || hooks.contains stem || hooks.contains (camelCase stem) then
      none
    else
      some
        { inspector := id
          severity := .info
          title := "Hook naming mismatch"
          message := s!"File `{stem}` exports hook `{first}`"
          file := some m.path
          suggestion := some s!"Rename the file to `{first}` or rename the hook" }

/-- A finding when routes check who asks in more than one way. -/
def authPatterns (g : Graph) : List Finding :=
  let patterns := Sorted.groups Route.auth (g.routes.filter Route.isAuthenticated)
  let counts := patterns.map fun (pattern, routes) =>
    let count := routes.length
    s!"{pattern} ({count} routes)"
  if patterns.length > 1 then
    [{ inspector := id
       severity := .warning
       title := "Inconsistent auth patterns"
       message := "Multiple auth patterns detected: " ++ ", ".intercalate counts
       suggestion := some "Standardize on a single auth pattern across all route handlers" }]
  else []

def isFixed (segment : String) : Bool :=
  segment != "" && !Text.leads "[" segment && !Text.leads "$" segment

def routeCase? (file route : String) : Option Finding :=
  ((Text.splitAt '/' route).filter isFixed).find? (fun s => s != Text.lowercase s) |>.map
    fun segment =>
      { inspector := id
        severity := .info
        title := "Non-lowercase route segment"
        message := s!"Route segment `{segment}` in `{route}` is not lowercase"
        file := some file
        suggestion := some "Use kebab-case for route segments" }

def routeCases (g : Graph) : List Finding :=
  g.routes.filterMap (fun r => routeCase? r.file r.routePath) ++
    g.pages.filterMap (fun p => routeCase? p.file p.routePath)

/-- Directories whose files a router finds. -/
def routingSegments : List String :=
  ["app", "pages", "routes", "api"]

/-- Whether a directory should have an index file and has none. -/
def lacksIndex (limits : Thresholds) (dir : String) (files : List String) : Bool :=
  dir != "" && limits.barrelFiles ≤ files.length &&
    !(Text.splitAt '/' dir).any routingSegments.contains &&
    !files.any fun f => Path.stem f == "index"

def missingIndexes (g : Graph) (limits : Thresholds) : List Finding :=
  (Sorted.groups Path.directory g.ids).filterMap fun (dir, files) =>
    if lacksIndex limits dir files then
      let count := files.length
      some
        { inspector := id
          severity := .info
          title := "Missing barrel export"
          message := s!"Directory has {count} files but no index barrel"
          file := some dir
          suggestion := some "Add an index.ts that re-exports the public API" }
    else none

def inspector : Inspector where
  id := id
  name := "Convention Enforcer"
  description := "Checks hook file naming, route segment casing, barrel files and auth consistency"
  tier := .pro
  inspect g s := .reported <|
    g.modules.filterMap hookName? ++ authPatterns g ++ routeCases g ++
      missingIndexes g s.inspection.thresholds

end Survey.Conventions
