import Survey.Facts.Basic
import Survey.Facts.Naming
import Survey.Text.Case
import Survey.Text.Scan

/-!
Facts that are read off the text of a module: environment variables, marks of authentication, query
parameters, message namespaces, request methods, and dangerous constructs.
-/
namespace Survey.Signals

open Survey.Text

/-- Calls that run at points of a component's life and count as side effects. -/
def lifecycleHooks : List String :=
  ["useEffect", "useLayoutEffect", "useInsertionEffect", "onMounted", "onUnmounted",
    "watchEffect"]

def dataOperations : List String :=
  ["findMany", "findUnique", "findFirst", "create", "createMany", "update", "updateMany",
    "delete", "deleteMany", "upsert", "count", "aggregate", "groupBy"]

/-- Marks of authentication in order of weight; the flag says that the mark also protects request
handlers. -/
def authMarkers : List (String × Bool) :=
  [("auth()", true), ("getServerSession", true), ("getSession", true), ("currentUser", true),
    ("withAuth", true), ("useSession", false), ("redirect", false)]

def isServerAuth (marker : String) : Bool :=
  authMarkers.any fun (m, server) => m == marker && server

/-- An environment variable after a point or in brackets. -/
def envVar : Recogniser String := fun cs => do
  let cs ← (lit "process.env" cs).or (lit "import.meta.env" cs)
  match cs with
  | '.' :: cs => plainName cs
  | '[' :: cs =>
    let cs ← one isQuote (skipBlank cs)
    let (name, cs) ← plainName cs
    let cs ← one isQuote cs
    let cs ← lit "]" (skipBlank cs)
    some (name, cs)
  | _ => none

/-- The environment variables that a text names, each once. -/
def envVars (text : String) : List String :=
  (findAll envVar text.toList).eraseDups

def endpoint? (cs : List Char) : Option String := do
  let cs ← one isAnyQuote (skipBlank cs)
  let path ← lit "/api/" cs
  let tail := path.takeWhile fun c => !isAnyQuote c
  let _ ← one isAnyQuote (path.dropWhile fun c => !isAnyQuote c)
  some ("/api/" ++ String.ofList tail)

def methodOption : Recogniser String := fun cs => do
  let cs ← lit "method" cs
  let cs ← lit ":" (skipBlank cs)
  let cs ← one isAnyQuote (skipBlank cs)
  let (name, cs) ← run1 Char.isAlpha cs
  let cs ← one isAnyQuote cs
  some (name, cs)

/-- The request that a call makes, read from its arguments; only requests to the project's own
routes count, and the method is GET unless an option names another. -/
def fetchCall? (arguments : String) : Option ApiCall := do
  let inner := ((lit "(" (trim arguments.toList))).getD arguments.toList
  let endpoint ← endpoint? inner
  some ⟨endpoint, ((findFirst? methodOption inner).map uppercase).getD "GET"⟩

def dataAccess? (callee : String) : Option DataAccess := do
  let cs := callee.toList.filter fun c => !isBlank c
  let cs ← (lit "prisma." cs).or (lit "db." cs)
  let (entity, cs) ← run1 isWord cs
  let cs ← lit "." cs
  let (operation, cs) ← run1 isWord cs
  if cs.isEmpty && dataOperations.contains operation then some ⟨entity, operation⟩ else none

def authCall : Recogniser Unit := fun cs => do
  let cs ← lit "auth" cs
  let cs ← lit "(" (skipBlank cs)
  let cs ← lit ")" (skipBlank cs)
  some ((), cs)

def showsAuth (text marker : String) : Bool :=
  if marker = "auth()" then (findWord? authCall text.toList).isSome
  else if marker = "redirect" then holds text "redirect("
  else holds text marker

/-- The marks of authentication in a text, in order of weight. -/
def authSignals (text : String) : List String :=
  (authMarkers.map Prod.fst).filter (showsAuth text)

/-- The text after an optional question mark. -/
def optionalMark (cs : List Char) : List Char :=
  (lit "?" cs).getD cs

def searchParam : Recogniser String := fun cs => do
  let cs ← lit "searchParams" cs
  let called : Option (String × List Char) := do
    let cs ← lit ".get(" (optionalMark cs)
    let cs ← one isQuote (skipBlank cs)
    let (name, cs) ← run1 isWord cs
    let cs ← one isQuote cs
    some (name, cs)
  let asProperty : Option (String × List Char) := do
    let cs ← lit "." (optionalMark cs)
    run1 isWord cs
  called.or asProperty

def queryParam : Recogniser String := fun cs => do
  let cs ← ((lit "router.query." cs).or (lit "req.query." cs)).or (lit "query." cs)
  run1 isWord cs

def searchMethods : List String :=
  ["get", "has", "getAll", "toString", "entries"]

/-- The query parameters that a text reads, each once. -/
def queryParams (text : String) : List String :=
  (((findAll searchParam text.toList).filter fun p => !searchMethods.contains p) ++
    findAll queryParam text.toList).eraseDups

def messageNamespace : Recogniser String := fun cs => do
  let cs ← ((lit "useTranslations(" cs).or (lit "getTranslations(" cs)).or
    (lit "useTranslation(" cs)
  let cs ← one isQuote (skipBlank cs)
  let (name, cs) ← run1 (fun c => isWord c || c == '.' || c == '-') cs
  let cs ← one isQuote cs
  some (name, cs)

def i18nNamespace (text : String) : Option String :=
  findFirst? messageNamespace text.toList

def requestMethod : Recogniser String := fun cs => do
  let cs ← (lit "request.method" cs).or (lit "req.method" cs)
  let cs ← lit "==" (skipBlank cs)
  let cs ← one isQuote (skipBlank ((lit "=" cs).getD cs))
  let (name, cs) ← run1 Char.isUpper cs
  let cs ← one isQuote cs
  some (name, cs)

/-- The request methods that a text dispatches on, each once. -/
def requestMethods (text : String) : List String :=
  ((findAll requestMethod text.toList).filter Naming.httpMethods.contains).eraseDups

/-- An assignment to the markup inside an element. -/
def innerMarkup : Recogniser Unit := fun cs => do
  let cs ← lit ".innerHTML" cs
  let cs ← lit "=" (skipBlank cs)
  let cs ← one (· != '=') cs
  some ((), cs)

/-- An import of the module that starts other programs. -/
def processImport : Recogniser Unit := fun cs => do
  let afterFrom : Option (List Char) := do
    let cs ← lit "from" cs
    let cs ← one isBlank cs
    some (skipBlank cs)
  let cs ← afterFrom.or ((lit "require(" cs).map skipBlank)
  let cs ← one isQuote cs
  let cs ← lit "child_process" ((lit "node:" cs).getD cs)
  let cs ← one isQuote cs
  some ((), cs)

/-- The dangerous constructs that show in a text. -/
def dangers (text : String) : List String :=
  (if (findFirst? innerMarkup text.toList).isSome then ["innerHTML assignment"] else []) ++
    (if holds text "dangerouslySetInnerHTML" then ["dangerouslySetInnerHTML"] else []) ++
    (if (findFirst? processImport text.toList).isSome then ["child_process import"] else [])

end Survey.Signals
