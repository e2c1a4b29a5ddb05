import Survey.Inspection.Inspector

/-!
Security: data changed without a check of who asks, variables of the server that reach a browser,
and dangerous constructs in code of the server.
-/
namespace Survey.Exposure

def id : String :=
  "security-scanner"

/-- Parts of the paths of routes that are meant to be open. -/
def openMarkers : List String :=
  ["webhook", "cron", "health", "auth", "public", "register", "login"]

def isOpen (route : String) : Bool :=
  openMarkers.any (Text.holds (Text.lowercaseAscii route))

/-- Whether a route changes data for anyone who asks. -/
def isUnguarded (r : Route) : Bool :=
  !r.entities.isEmpty && !r.isAuthenticated && r.isMutating && !isOpen r.routePath

def unguarded (r : Route) : Finding :=
  let route := r.routePath
  let methods := ", ".intercalate r.methods
  let entities := ", ".intercalate r.entities
  { inspector := id
    severity := .error
    title := "Unauthenticated data mutation"
    message := s!"Route `{route}` ({methods}) touches [{entities}] without any auth check"
    file := some r.file
    suggestion := some "Add an auth() or getServerSession() guard at the top of the handler" }

/-- The libraries reached from a queue of modules through libraries, breadth first. -/
def reach (g : Graph) : Nat → List String → List String → List Library
  | 0, _, _ => []
  | _ + 1, [], _ => []
  | n + 1, id :: queue, visited =>
    if visited.contains id then reach g n queue visited
    else
      match g.library? id with
      | none => reach g n queue (id :: visited)
      | some library => library :: reach g n (queue ++ g.dependencies id) (id :: visited)

def reachable (g : Graph) (file : String) : List Library :=
  reach g (2 * g.arcs.length + 1) (g.dependencies file) []

/-- The variables a browser would see through libraries, each with the first library that reads it. -/
def leaks (g : Graph) (s : Settings) (c : Component) : List (String × String) :=
  let reads := (reachable g c.file).flatMap fun l => l.envVars.map fun v => (l.file, v)
  (reads.filter fun r => !s.isPublicEnv r.2).eraseDupsBy fun a b => a.2 == b.2

/-- A variable of the server that a client component reads itself. -/
def readInside (s : Settings) (c : Component) (v : String) : Finding :=
  let name := c.name
  let prefixes := ", ".intercalate s.inspection.publicEnvPrefixes
  { inspector := id
    severity := .error
    title := "Server env var in client component"
    message := s!"Client component `{name}` reads `{v}`, which is not exposed to the browser"
    file := some c.file
    suggestion := some
      s!"Read it in a server component or route handler, or give it a public prefix ({prefixes})" }

/-- A variable of the server that a library reads for a client component. -/
def readThrough (c : Component) (library v : String) : Finding :=
  let name := c.name
  { inspector := id
    severity := .warning
    title := "Server env var reachable from client"
    message := s!"Client component `{name}` imports `{library}`, which reads `{v}`"
    file := some c.file
    suggestion := some "Split server-only logic into a separate module" }

def ofComponent (g : Graph) (s : Settings) (c : Component) : List Finding :=
  (c.envVars.filter fun v => !s.isPublicEnv v).map (readInside s c) ++
    (leaks g s c).map fun leak => readThrough c leak.1 leak.2

/-- How a dangerous construct is rated, and what to do about it. -/
def rating (pattern : String) : Severity × String :=
  if pattern = "eval()" ∨ pattern = "new Function()" then
    (.error, "Avoid evaluating strings as code; parse the input explicitly")
  else if pattern = "exec()" ∨ pattern = "child_process import" then
    (.warning, "Use execFile/spawn with an argument array and never interpolate input")
  else (.warning, "Escape or sanitize HTML before injecting it")

def dangerous (m : Module) (pattern : String) : Finding :=
  let kind := (Role.primary m.roles).name
  { inspector := id
    severity := (rating pattern).1
    title := "Dangerous pattern: " ++ pattern
    message := s!"`{pattern}` found in {kind} module"
    file := some m.path
    suggestion := some (rating pattern).2 }

def inspector : Inspector where
  id := id
  name := "Security Scanner"
  description := "Detects unauthenticated data mutations, server env vars reaching the client and dangerous patterns"
  tier := .pro
  inspect g s := .reported <|
    (g.routes.filter isUnguarded).map unguarded ++
      (g.components.filter (·.renderKind == .client)).flatMap (ofComponent g s) ++
      (g.modules.filter fun m => m.has .routeHandler || m.has .library).flatMap fun m =>
        m.dangerousPatterns.map (dangerous m)

end Survey.Exposure
