import Survey.Project.FileTree
import Survey.Schema.Block
import Survey.Schema.Builder
import Survey.Settings.Basic
import Survey.Sorted

/-!
Where the schema of a project is written, and the schema that stands there. Settings may name a file
or directory in place of the usual ones.
-/
namespace Survey.Schema

open Survey.Syntax

/-- The files that hold a whole block schema; the first that is there counts. -/
def blockFiles : List String :=
  ["prisma/schema.prisma", "schema.prisma"]

/-- The directory of a block schema in several files. -/
def blockDirectory : String :=
  "prisma/schema"

/-- The directories that are searched for table definitions. -/
def builderDirectories : List String :=
  ["src/db", "db", "drizzle", "src/schema", "lib/db", "server/db", "src/lib/db"]

def textAt? (t : FileTree) (p : Place) : Option String :=
  match t.get? p with
  | some (.file bytes) => Text.Utf8.decode? bytes.data.toList
  | _ => none

def isBlockPlace (p : Place) : Bool :=
  p.getLast?.any (Path.hasExtension "prisma")

/-- The places of a block schema that a path leads to: a file of its extension, or those directly in
a directory, the directory among them. -/
def blockPlaces (t : FileTree) (root : Place) (path : String) : List Place :=
  match t.find root path with
  | .ok (p, .file _) => [p].filter isBlockPlace
  | .ok (p, .directory) =>
    let inside := (Sorted.distinct (t.namesIn p)).map fun name => p ++ [name]
    (p :: inside).filter isBlockPlace
  | .error _ => []

/-- The places of a block schema where none is named. -/
def usualBlockPlaces (t : FileTree) (root : Place) : List Place :=
  match blockFiles.find? (t.isFile root) with
  | some file => (t.locate root file).toOption.toList
  | none =>
    match t.find root blockDirectory with
    | .ok (_, .directory) => blockPlaces t root blockDirectory
    | _ => []

def isBuilderName (name : String) : Bool :=
  (Text.endsIn name ".ts" || Text.endsIn name ".mts") && !Text.endsIn name ".d.ts"

/-- The places of scripts that a path leads to: a file, or all scripts below a directory. -/
def builderPlaces (t : FileTree) (root : Place) (path : String) : List Place :=
  match t.find root path with
  | .ok (p, .file _) => [p]
  | .ok (p, .directory) =>
    let scripts := (t.filesBelow p).filter fun way => way.getLast?.any isBuilderName
    (scripts.mergeSort fun a b => !b.lex a).map (p ++ ·)
  | .error _ => []

/-- The path of a place from the root of a project; places elsewhere keep their whole path. -/
def pathFrom (root p : Place) : String :=
  match root.isPrefixOf? p with
  | some way => Text.join "/" way
  | none => p.path

/-- The block schema of some places. Each text stands on lines of its own. -/
def readBlock (t : FileTree) (places : List Place) : Schema :=
  Block.parse (Text.join "" ((places.filterMap (textAt? t)).map (· ++ "\n")))

/-- The scripts at some places that use the table builder. -/
def builderSources (t : FileTree) (root : Place) (places : List Place) : List (String × String) :=
  places.filterMap fun p =>
    match textAt? t p with
    | some text => if Text.holds text "drizzle-orm" then some (pathFrom root p, text) else none
    | none => none

/-- The block schema of a project. Without entities it counts only when it is asked for. -/
def block? (t : FileTree) (root : Place) (s : SchemaSettings) : Option Schema :=
  let places :=
    match s.path with
    | some path => blockPlaces t root path
    | none => usualBlockPlaces t root
  let schema := readBlock t places
  if places.isEmpty then none
  else if schema.entities.isEmpty && s.provider ≠ .prisma then none
  else some schema

def builder? (t : FileTree) (root : Place) (s : SchemaSettings)
    (parser : Parser := Script.parse?) : Option Schema :=
  let places :=
    match s.path with
    | some path => builderPlaces t root path
    | none => builderDirectories.flatMap (builderPlaces t root)
  let sources := builderSources t root places
  if sources.isEmpty then none else some (Builder.parse sources parser)

/-- The schema of a project. A block schema comes before table definitions. -/
def ofProject (t : FileTree) (root : Place) (s : SchemaSettings)
    (parser : Parser := Script.parse?) : Schema :=
  let block := if s.provider = .auto ∨ s.provider = .prisma then block? t root s else none
  let builder := if s.provider = .auto ∨ s.provider = .drizzle then builder? t root s parser else none
  (block <|> builder).getD {}

end Survey.Schema
