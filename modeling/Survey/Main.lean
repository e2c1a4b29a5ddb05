import Std.Time.DateTime.Timestamp
import Survey.Command.Run

/-!
The command itself. It loads what a run may look at into a tree, runs, and puts back what the run
changed.
-/
namespace Survey.Main

/-- What stands at a place on the disk. -/
def entryAt? (place : Place) : IO (Option Entry) := do
  try
    let path ← IO.FS.realPath place.path
    match (← path.metadata).type with
    | .dir => return some .directory
    | .file => return some (.file (← IO.FS.readBinFile path))
    | _ => return none
  catch _ => return none

/-- Load all that stands on the way to a place, and what stands there. -/
def loadWay (tree : FileTree) (place : Place) : IO FileTree := do
  let mut tree := tree
  for length in List.range (place.length + 1) do
    let way := place.take length
    if let some entry ← entryAt? way then tree := tree.insert way entry
  return tree

/-- Load all that a path passes, also what it goes back from. -/
def loadAlong (base : Place) (tree : FileTree) (path : String) : IO FileTree :=
  let segments := Text.splitAt '/' path
  (List.range (segments.length + 1)).foldlM (fun t length =>
    loadWay t ((segments.take length).foldl Place.next (FileTree.start base path))) tree

/-- Load what stands below a directory, except in the directories of the given names. Links are left
out. -/
partial def loadBelow (skips : String → Bool) (tree : FileTree) (dir : Place) : IO FileTree := do
  let path ← IO.FS.realPath dir.path
  let mut tree := tree
  for item in ← path.readDir do
    let place := dir ++ [item.fileName]
    match (← item.path.symlinkMetadata).type with
    | .file => tree := tree.insert place (.file (← IO.FS.readBinFile item.path))
    | .dir =>
      tree := tree.insert place .directory
      if !skips item.fileName then tree ← loadBelow skips tree place
    | _ => pure ()
  return tree

/-- Load what a path leads to, with all that stands below it. -/
def loadAll (tree : FileTree) (base : Place) (path : String) : IO FileTree := do
  let place := FileTree.placeOf base path
  let tree ← loadWay tree place
  match tree.get? place with
  | some .directory => loadBelow (fun _ => false) tree place
  | _ => return tree

/-- Directories of a project that are not searched for modules. -/
def isUnsearched (name : String) : Bool :=
  !Discovery.isVisible [name]

def load (here : Place) (a : Command.Arguments) : IO FileTree := do
  let root := FileTree.placeOf here a.path
  let tree ← loadWay {} root
  match tree.get? root with
  | some .directory =>
    let tree ← loadBelow isUnsearched tree root
    let tree ← (a.config.toList ++ a.snapshot.toList).foldlM (loadAlong here) tree
    let settings :=
      match a.config with
      | some path => Settings.load tree here path
      | none => Settings.discover tree root
    let schema := (settings.toOption.getD {}).schema
    let places := schema.path.toList ++ (Schema.blockDirectory :: Schema.builderDirectories)
    places.foldlM (fun t path => loadAll t root path) tree
  | _ => return tree

/-- Put on the disk what a run left otherwise than it was: directories that were made and files that
were written. -/
def store (before after : FileTree) : IO Unit := do
  for (place, entry) in after.entries.reverse do
    match entry, before.get? place with
    | .directory, none => IO.FS.createDirAll place.path
    | .file bytes, some (.file old) => if bytes.data ≠ old.data then IO.FS.writeBinFile place.path bytes
    | .file bytes, none => IO.FS.writeBinFile place.path bytes
    | _, _ => pure ()

/-- The switch that a variable of the environment is, if it is set. -/
def switch? (name : String) : IO (Option Bool) := do
  return (← IO.getEnv name).map (· ≠ "0")

/-- Whether reports are coloured: on a terminal, unless the environment says otherwise. -/
def wantsColors : IO Bool := do
  if (← switch? "CLICOLOR_FORCE") = some true then return true
  if (← switch? "NO_COLOR").isSome then return false
  return (← switch? "CLICOLOR").getD true && (← (← IO.getStdout).isTty)

def perform (command : Command) : IO UInt32 := do
  let here := FileTree.placeOf [] (← IO.currentDir).toString
  let clock := (← Std.Time.Timestamp.now).val
  let now := Instant.ofSeconds clock.second.val clock.nano.val.toNat
  let tree ←
    match command with
    | .analyze a => load here a
    | .agents => pure {}
  let session : Command.Session := {
    tree := tree
    here := here
    license := ← IO.getEnv "ARCHLENS_LICENSE"
    today := now.date
    now := now
    colors := ← wantsColors }
  let outcome := Command.run session command
  store tree outcome.tree
  IO.print outcome.output
  IO.eprint outcome.errors
  return outcome.exitCode.toUInt32

end Survey.Main

def main (args : List String) : IO UInt32 := do
  match Survey.Command.parse args with
  | .ok command => Survey.Main.perform command
  | .error usage =>
    if usage.exitCode = 0 then IO.println usage.message else IO.eprintln usage.message
    return usage.exitCode.toUInt32
