import Survey.Calendar.Instant
import Survey.Digest.Sha256
import Survey.Graph.Basic
import Survey.Json.Read
import Survey.Json.Write
import Survey.Project.FileTree
import Survey.Project.Framework
import Survey.Sorted

/-!
What a run saw: the digest and size of every analysed file. A snapshot is kept in a file and compared
with that of a later run.
-/
namespace Survey

/-- The digest of a file, in hexadecimal digits, and its number of bytes. -/
structure FileDigest where
  sha256 : String
  size : Nat
  deriving DecidableEq

/-- The files of a run by path. -/
structure Snapshot where
  analyzedAt : Instant
  framework : Framework
  stats : Graph.Stats
  files : List (String × FileDigest)
  ascending : Sorted.Ascending Prod.fst files
  deriving DecidableEq

namespace Snapshot

/-- The files of a run against those of an earlier one. -/
structure Diff where
  added : List String := []
  removed : List String := []
  modified : List String := []
  unchanged : List String := []
  deriving DecidableEq

def Diff.hasChanges (d : Diff) : Bool :=
  !(d.added.isEmpty && d.removed.isEmpty && d.modified.isEmpty)

def diff (new old : Snapshot) : Diff :=
  let paths (keep : String × FileDigest → Bool) (s : Snapshot) : List String :=
    (s.files.filter keep).map Prod.fst
  { added := paths (fun f => (old.files.lookup f.1).isNone) new
    removed := paths (fun f => (new.files.lookup f.1).isNone) old
    modified := paths (fun f => (old.files.lookup f.1).any (· ≠ f.2)) new
    unchanged := paths (fun f => old.files.lookup f.1 == some f.2) new }

/-! ## Text -/

def statsJson (s : Graph.Stats) : Json :=
  .ofMembers [("modules", .ofNat s.modules), ("edges", .ofNat s.edges), ("pages", .ofNat s.pages),
    ("components", .ofNat s.components), ("routes", .ofNat s.routes),
    ("libraries", .ofNat s.libraries), ("entities", .ofNat s.entities)]

def toJson (s : Snapshot) : Json :=
  .ofMembers [("analyzedAt", .ofString s.analyzedAt.iso), ("framework", .ofString s.framework.name),
    ("stats", statsJson s.stats),
    ("files", .ofMembers (s.files.map fun (path, d) =>
      (path, .ofMembers [("sha256", .ofString d.sha256), ("size", .ofNat d.size)])))]

def text (s : Snapshot) : String :=
  s.toJson.pretty

def statsOf? (j : Json) : Option Graph.Stats := do
  let r ← Record.ofJson?
    ["modules", "edges", "pages", "components", "routes", "libraries", "entities"] j
  let count (field : String) : Option Nat := r.required field Json.natural?
  return {
    modules := ← count "modules"
    edges := ← count "edges"
    pages := ← count "pages"
    components := ← count "components"
    routes := ← count "routes"
    libraries := ← count "libraries"
    entities := ← count "entities" }

def digestOf? (j : Json) : Option FileDigest := do
  let r ← Record.ofJson? ["sha256", "size"] j
  some ⟨← r.required "sha256" Json.string?, ← r.required "size" Json.natural?⟩

/-- A framework by its name, alone or as the name of a member without value. -/
def frameworkOf? : Json → Option Framework
  | .string name => name.text?.bind Framework.ofName?
  | .object [(name, .null)] => name.text?.bind Framework.ofName?
  | _ => none

def ofJson? (j : Json) : Option Snapshot := do
  let r ← Record.ofJson? ["analyzedAt", "framework", "stats", "files"] j
  let files ← r.required "files" (Json.table? digestOf?)
  return {
    analyzedAt := ← r.required "analyzedAt" fun t => t.string?.bind Instant.parse?
    framework := ← r.required "framework" frameworkOf?
    stats := ← r.required "stats" statsOf?
    files := Sorted.ofList Prod.fst files
    ascending := Sorted.ascending_ofList Prod.fst files }

def parse? (text : String) : Option Snapshot :=
  (Json.parse? text).bind ofJson?

/-! ## Files -/

inductive Fault where
  | unreadableSource (path : String) (cause : FileError)
  | unreadable (path : String) (cause : FileError)
  | malformed (path : String)
  | noDirectory (path : String) (cause : FileError)
  | unwritable (path : String) (cause : FileError)
  deriving DecidableEq

namespace Fault

def context : Fault → String
  | .unreadableSource path _ => "reading " ++ path
  | .unreadable path _ => "reading snapshot " ++ path
  | .malformed path => "parsing snapshot " ++ path
  | .noDirectory path _ => "creating " ++ path
  | .unwritable path _ => "writing snapshot " ++ path

def cause? : Fault → Option FileError
  | .malformed _ => none
  | .unreadableSource _ cause => some cause
  | .unreadable _ cause => some cause
  | .noDirectory _ cause => some cause
  | .unwritable _ cause => some cause

def message (f : Fault) : String :=
  Text.join ": " (f.context :: (f.cause?.map FileError.message).toList)

end Fault

def digest (bytes : ByteArray) : FileDigest :=
  ⟨Text.hex (Digest.sha256 bytes.data.toList), bytes.size⟩

/-- The snapshot of some files of a project. The first that cannot be read is the fault. -/
def capture (t : FileTree) (root : Place) (files : List String) (now : Instant) (f : Framework)
    (stats : Graph.Stats) : Except Fault Snapshot := do
  let digests ← files.mapM fun id =>
    match t.read root id with
    | .ok bytes => .ok (id, digest bytes)
    | .error cause => .error (.unreadableSource (Path.behind root.path id) cause)
  return ⟨now, f, stats, Sorted.ofList Prod.fst digests, Sorted.ascending_ofList Prod.fst digests⟩

def load (t : FileTree) (base : Place) (path : String) : Except Fault Snapshot := do
  let text ← (t.readText base path).mapError (.unreadable path)
  match parse? text with
  | some s => .ok s
  | none => .error (.malformed path)

/-- The snapshot that is kept in a file, if the file is there. -/
def load? (t : FileTree) (base : Place) (path : String) : Except Fault (Option Snapshot) :=
  if t.has base path then (load t base path).map some else .ok none

/-- A tree with a snapshot kept in a file, whose directories are made, and what stopped it. The
directories made before it stay. -/
def keep (s : Snapshot) (t : FileTree) (base : Place) (path : String) : FileTree × Option Fault :=
  match t.makeParent base path with
  | (made, some cause) => (made, some (.noDirectory (Path.parent path) cause))
  | (made, none) =>
    match made.write base path s.text.toUTF8 with
    | .ok written => (written, none)
    | .error cause => (made, some (.unwritable path cause))

def save (s : Snapshot) (t : FileTree) (base : Place) (path : String) : Except Fault FileTree :=
  match s.keep t base path with
  | (tree, none) => .ok tree
  | (_, some fault) => .error fault

end Snapshot

end Survey
