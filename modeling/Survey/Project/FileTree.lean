import Survey.Project.Path
import Survey.Text.Utf8

/-!
Files and directories below one root, and the paths that lead to them. A path is followed segment
by segment, and only a directory can be left; nothing here is a link.
-/
namespace Survey

/-- The names on the way from the root of a tree. -/
abbrev Place := List String

def Place.path (p : Place) : String :=
  "/" ++ Text.join "/" p

/-- The place one segment of a path further, whatever stands there. -/
def Place.next (here : Place) (segment : String) : Place :=
  if segment = "" ∨ segment = "." then here
  else if segment = ".." then here.dropLast
  else here ++ [segment]

/-- What stands at a place. -/
inductive Entry where
  | directory
  | file (bytes : ByteArray)

inductive FileError where
  | notFound
  | notDirectory
  | isDirectory
  | occupied
  | notText
  deriving DecidableEq

def FileError.message : FileError → String
  | .notFound => "No such file or directory (os error 2)"
  | .notDirectory => "Not a directory (os error 20)"
  | .isDirectory => "Is a directory (os error 21)"
  | .occupied => "File exists (os error 17)"
  | .notText => "stream did not contain valid UTF-8"

/-- Files and directories. The root is always a directory. -/
structure FileTree where
  entries : List (Place × Entry) := []

namespace FileTree

def get? (t : FileTree) (p : Place) : Option Entry :=
  if p = [] then some .directory else t.entries.lookup p

def insert (t : FileTree) (p : Place) (e : Entry) : FileTree :=
  ⟨(p, e) :: t.entries.filter fun entry => entry.1 ≠ p⟩

def remove (t : FileTree) (p : Place) : FileTree :=
  ⟨t.entries.filter fun entry => !p.isPrefixOf entry.1⟩

/-- The ways from a directory to the files below it. -/
def filesBelow (t : FileTree) (dir : Place) : List Place :=
  t.entries.filterMap fun
    | (p, .file _) => dir.isPrefixOf? p
    | (_, .directory) => none

def namesIn (t : FileTree) (dir : Place) : List String :=
  t.entries.filterMap fun entry =>
    match dir.isPrefixOf? entry.1 with
    | some [name] => some name
    | _ => none

/-! ## Following paths -/

/-- Where a path begins. -/
def start (base : Place) (path : String) : Place :=
  if Text.leads "/" path then [] else base

/-- One segment of a path; a directory has to be left for it. -/
def step (t : FileTree) (here : Place) (segment : String) : Except FileError Place :=
  match t.get? here with
  | none => .error .notFound
  | some (.file _) => .error .notDirectory
  | some .directory => .ok (here.next segment)

/-- The place that a path names, whatever stands on the way. -/
def placeOf (base : Place) (path : String) : Place :=
  (Text.splitAt '/' path).foldl Place.next (start base path)

/-- The place that a path leads to. Something has to stand at all places on the way, but not at its
end. -/
def locate (t : FileTree) (base : Place) (path : String) : Except FileError Place :=
  (Text.splitAt '/' path).foldlM t.step (start base path)

def find (t : FileTree) (base : Place) (path : String) : Except FileError (Place × Entry) := do
  let p ← t.locate base path
  match t.get? p with
  | some e => .ok (p, e)
  | none => .error .notFound

def has (t : FileTree) (base : Place) (path : String) : Bool :=
  (t.find base path).isOk

def isFile (t : FileTree) (base : Place) (path : String) : Bool :=
  match t.find base path with
  | .ok (_, .file _) => true
  | _ => false

def read (t : FileTree) (base : Place) (path : String) : Except FileError ByteArray := do
  match ← t.find base path with
  | (_, .file bytes) => .ok bytes
  | (_, .directory) => .error .isDirectory

def readText (t : FileTree) (base : Place) (path : String) : Except FileError String := do
  match Text.Utf8.decode? (← t.read base path).data.toList with
  | some text => .ok text
  | none => .error .notText

/-! ## Changing trees -/

/-- A tree with the directories that are missing on a way, and what stopped their making. Those made
before it stay. Once one was made, a file on the way is where a directory has to be. -/
def makeAlong (t : FileTree) (here : Place) (making : Bool) :
    List String → FileTree × Option FileError
  | [] =>
    match t.get? here with
    | some .directory => (t, none)
    | _ => (t, some .occupied)
  | segment :: rest =>
    match t.step here segment with
    | .error cause => (t, some (if making then .occupied else cause))
    | .ok next =>
      match t.get? next with
      | some _ => makeAlong t next making rest
      | none => makeAlong (t.insert next .directory) next true rest

/-- A tree with the directories of a path as far as they can be made. -/
def makeWay (t : FileTree) (base : Place) (path : String) : FileTree × Option FileError :=
  t.makeAlong (start base path) false (Text.splitAt '/' path)

/-- A tree with the directories above the end of a path as far as they can be made. -/
def makeParent (t : FileTree) (base : Place) (path : String) : FileTree × Option FileError :=
  if Path.parent path = "" then (t, none) else t.makeWay base (Path.parent path)

/-- A tree with all directories of a path. -/
def makeDirectories (t : FileTree) (base : Place) (path : String) : Except FileError FileTree :=
  match t.makeWay base path with
  | (made, none) => .ok made
  | (_, some cause) => .error cause

/-- A tree with a file of the given bytes at a path, whose directory has to be there. -/
def write (t : FileTree) (base : Place) (path : String) (bytes : ByteArray) :
    Except FileError FileTree := do
  let place ← t.locate base (Path.withoutSlash path)
  match t.get? place with
  | some .directory => .error .isDirectory
  | _ => if Text.endsIn path "/" then .error .isDirectory else .ok (t.insert place (.file bytes))

end FileTree

end Survey
