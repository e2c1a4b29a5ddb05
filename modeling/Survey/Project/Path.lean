import Survey.Text.Basic

/-!
Paths inside a project, written with slashes. A path is normal when it has no empty segment and no
segment that stands for the directory itself or its parent.
-/
namespace Survey.Path

open Survey

/-- One segment put on the stack of segments above it; a step up needs one to take away. -/
def push (stack : List String) (segment : String) : Option (List String) :=
  if segment = "" ∨ segment = "." then some stack
  else if segment = ".." then
    match stack with
    | [] => none
    | _ :: below => some below
  else some (segment :: stack)

/-- A path joined to a directory without steps up; none when it would leave the project. -/
def normalize? (dir rel : String) : Option String :=
  ((Text.splitAt '/' dir ++ Text.splitAt '/' rel).foldlM push []).map fun stack =>
    Text.join "/" stack.reverse

/-- The directory of a file; empty at the root. -/
def directory (path : String) : String :=
  match Text.cutLast? (· = '/') path.toList with
  | some (dir, _) => String.ofList dir
  | none => ""

def fileName (path : String) : String :=
  match Text.cutLast? (· = '/') path.toList with
  | some (_, name) => String.ofList name
  | none => path

/-- What follows the last point of a text; empty without one. -/
def afterPoint (s : String) : String :=
  match Text.cutLast? (· = '.') s.toList with
  | some (_, ext) => String.ofList ext
  | none => ""

def extension (path : String) : String :=
  afterPoint (fileName path)

/-- The name of a file without its last extension; a leading point starts none. -/
def stem (path : String) : String :=
  let name := fileName path
  match Text.cutLast? (· = '.') name.toList with
  | some ([], _) => name
  | some (base, _) => String.ofList base
  | none => name

/-- Whether a file has an extension; a leading point starts none. -/
def hasExtension (ext name : String) : Bool :=
  match Text.cutLast? (· = '.') name.toList with
  | some (base, e) => base ≠ [] ∧ String.ofList e = ext
  | none => false

/-- A path behind a directory, unless it starts at the root itself. -/
def behind (dir path : String) : String :=
  if Text.leads "/" path then path
  else if Text.endsIn dir "/" then dir ++ path
  else dir ++ "/" ++ path

def withoutSlash (path : String) : String :=
  String.ofList (path.toList.reverse.dropWhile (· = '/')).reverse

/-- Segments without the last ones that stay where they are; the first is kept. -/
def dropIdle (segments : List String) : List String :=
  match segments with
  | [] => []
  | first :: rest =>
    first :: (rest.reverse.dropWhile fun segment => segment = "" ∨ segment = ".").reverse

/-- The path of the directory that holds what a path names; empty when only a name is given. -/
def parent (path : String) : String :=
  match dropIdle (dropIdle (Text.splitAt '/' path)).dropLast with
  | [""] => if Text.leads "/" path then "/" else ""
  | segments => Text.join "/" segments

end Survey.Path
