import Survey.Facts.Basic
import Survey.Facts.Naming
import Survey.Project.Path

/-!
The roles of a module, by its place in the project and by its exports, and the address that a page
or a request handler is served under.
-/
namespace Survey.Roles

open Survey

/-- The parts of a path that follow a directory of the given name, wherever it stands. -/
def below (dir : String) (path : String) : List (List Char) :=
  go true path.toList
where
  go (atStart : Bool) : List Char → List (List Char)
    | [] => []
    | c :: cs =>
      let here := if atStart then ((dir ++ "/").toList.isPrefixOf? (c :: cs)).toList else []
      here ++ go (c == '/') cs

/-- Text on one line with at least one character. -/
def isLine (cs : List Char) : Bool :=
  !cs.isEmpty && !cs.contains '\n'

/-- Whether the path ends in the file, directly or in directories of its own. -/
def endsInFile (file : String) (cs : List Char) : Bool :=
  cs == file.toList ||
    (("/" ++ file).toList.isSuffixOf cs && isLine (cs.take (cs.length - file.length - 1)))

def hasExtension (ext : String) (cs : List Char) : Bool :=
  ("." ++ ext).toList.isSuffixOf cs && isLine (cs.take (cs.length - ext.length - 1))

def hasFileBelow (dir base : String) (exts : List String) (path : String) : Bool :=
  (below dir path).any fun rest => exts.any fun ext => endsInFile (base ++ "." ++ ext) rest

def liesBelow (dir : String) (exts : List String) (path : String) : Bool :=
  (below dir path).any fun rest => exts.any fun ext => hasExtension ext rest

def isRoutePath (path : String) : Bool :=
  hasFileBelow "app" "route" ["ts", "js", "mts"] path ||
    liesBelow "pages/api" ["ts", "js", "tsx", "jsx"] path ||
    liesBelow "server/api" ["ts", "js", "mts"] path ||
    liesBelow "server/routes" ["ts", "js", "mts"] path

/-- Files under the pages that frame all of them. -/
def isFramePage (path : String) : Bool :=
  ["_app", "_document", "_error"].contains (Path.stem path)

def isPagePath (path : String) : Bool :=
  !isRoutePath path &&
    (hasFileBelow "app" "page" ["tsx", "ts", "jsx", "js", "mts"] path ||
      liesBelow "app/routes" ["tsx", "jsx"] path ||
      (liesBelow "pages" ["tsx", "ts", "jsx", "js", "vue"] path &&
        (below "pages/api" path).isEmpty && !isFramePage path))

def isHookFile (path : String) : Bool :=
  match Text.dropLeading? "use" (Path.stem path) with
  | some rest => rest.toList.head?.any fun c => c.isUpper || c == '-'
  | none => false

def isComponentPath (path : String) : Bool :=
  !(below "components" path).isEmpty

def isLibraryPath (path : String) : Bool :=
  let inner := (Text.dropLeading? "src/" path).getD path
  let named := fun p : String => ["lib/", "utils/", "server/", "services/", "helpers/"].any fun d =>
    Text.leads d p
  named path || named inner

/-- A function or value named like a hook. -/
def exportsHook (e : Export) : Bool :=
  (e.kind == .function || e.kind == .variable) && Naming.isHook e.name

/-- A function or value named like a component. -/
def exportsComponent (e : Export) : Bool :=
  (e.kind == .function || e.kind == .variable || e.kind == .default) && !e.typeOnly &&
    Naming.isPascal e.name && !Naming.httpMethods.contains e.name

structure Rule where
  role : Role
  description : String
  applies : String → List Export → Bool

def rules : List Rule :=
  [⟨.page, "page file under a routing directory", fun path _ => isPagePath path⟩,
    ⟨.routeHandler, "route handler under an API directory", fun path _ => isRoutePath path⟩,
    ⟨.hook, "file named use*", fun path _ => isHookFile path⟩,
    ⟨.component, "file under a components directory", fun path _ => isComponentPath path⟩,
    ⟨.hook, "exports a use* function", fun _ exports => exports.any exportsHook⟩,
    ⟨.component, "exports a capitalized function", fun _ exports => exports.any exportsComponent⟩,
    ⟨.library, "file under lib/utils/server/services/helpers", fun path _ => isLibraryPath path⟩]

def applying (path : String) (exports : List Export) : List Rule :=
  rules.filter fun rule => rule.applies path exports

/-- The roles of a module by precedence; a module that no rule fits is a library. -/
def classify (path : String) (exports : List Export) : List Role :=
  let found := (applying path exports).map Rule.role
  if found.isEmpty then [.library] else Role.select found.contains

/-- The directories that addresses start below. -/
def routeRoots : List String :=
  ["app", "pages", "server"]

/-- A directory in parentheses, which groups pages without a part in their address. -/
def isGroup (segment : String) : Bool :=
  let cs := segment.toList
  2 ≤ cs.length && cs.head? == some '(' && cs.getLast? == some ')' && !cs.contains '\n'

/-- Segments that have no part in an address. -/
def isHidden (segment : String) : Bool :=
  segment == "" || isGroup segment || Text.leads "@" segment

/-- The segments below the first root of addresses, or all of them. -/
def belowRoot (segments : List String) : List String :=
  match segments.dropWhile fun s => !routeRoots.contains s with
  | [] => segments
  | _ :: rest => rest

/-- The part of an address that a file name gives. -/
def fileSegment (name : String) : List String :=
  let base := Path.stem name
  if ["page", "route", "index", "+page"].contains base then [] else [base]

def routePath (path : String) : String :=
  let inner := belowRoot (Text.splitAt '/' path)
  let rest := if inner.head? == some "routes" then inner.tail else inner
  let segments := rest.dropLast ++ (rest.getLast?.map fileSegment).getD []
  "/" ++ Text.join "/" (segments.filter fun s => !isHidden s)

end Survey.Roles
