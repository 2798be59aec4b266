import CrateShelf.CommandLine.Run
import CrateShelf.Disk.Change

/-!
# The command

The files that a run may need are gathered, the run works on them, and what
it changed is put on the disk.  The keys of a user who browses are the
characters of the standard input.
-/

namespace CrateShelf.CommandLine

/-- Adds what stands at a path on the disk, and everything below it, to a
tree. -/
partial def gather (path : DiskPath) (tree : FileTree) : IO FileTree := do
  let place := (← IO.currentDir) / path.toText
  if ← place.isDir then
    let mut tree := (tree.ensureDirectories path).toOption.getD tree
    for entry in ← place.readDir do
      tree ← gather (path.child entry.fileName) tree
    return tree
  else if ← place.pathExists then
    let content := (← IO.FS.readBinFile place).data.toList
    return (tree.place path content).toOption.getD tree
  else return tree

/-- Does one step of a change on the disk. -/
def carryOut : Change → IO Unit
  | .removeFile path => IO.FS.removeFile path.toText
  | .removeDirectory path => IO.FS.removeDir path.toText
  | .makeDirectory path => IO.FS.createDirAll path.toText
  | .writeFile path content =>
    IO.FS.writeBinFile path.toText ⟨content.toArray⟩

/-- The named texts that a run looks at. -/
def readEnvironment : IO Environment := do
  let names := ["HOME", "OXIDOC_CONFIG", "OXIDOC_REGISTRY", "PAGER"]
  names.filterMapM fun name => do
    return (← IO.getEnv name).map (name, ·)

/-- The characters of the standard input as keys. -/
partial def readKeys (stdin : IO.FS.Stream) : IO (List Finder.Key) := do
  let line ← stdin.getLine
  if line.isEmpty then return []
  let keys := line.toList.map fun char => .text (String.singleton char)
  return keys ++ (← readKeys stdin)

/-- The world that a command line works on. -/
def gatherWorld [Depths] (arguments : Arguments) (environment : Environment) :
    IO World := do
  let mut files : FileTree := ⟨[([FileTree.rootName], .directory)]⟩
  for path in settingsFiles arguments environment do
    files ← gather path files
  let settings := settingsOf arguments { files, environment }
  for path in workplaces arguments environment settings do
    files ← gather path files
  return { files, environment }

/-- Tells the user how a run ended. -/
def report : Except Fault Response → IO UInt32
  | .ok response => do
    IO.print response.out
    for (_, page) in response.showing.pages do
      IO.print page
    IO.eprint response.err
    return UInt32.ofNat response.code
  | .error fault => do
    IO.eprintln ("unexpected: " ++ fault.shown)
    return 1

end CrateShelf.CommandLine

open CrateShelf CrateShelf.CommandLine

attribute [local instance] Depths.usual in
/-- Runs a command line on the disk. -/
def main (words : List String) : IO UInt32 := do
  match parse words with
  | .error stop => report (.ok (stopResponse stop))
  | .ok arguments =>
    let world ← gatherWorld arguments (← readEnvironment)
    let keys ←
      if arguments.isInteractive then readKeys (← IO.getStdin)
      else pure []
    let (result, after) := run words { keys } world
    for change in world.files.changesTo after.files do
      carryOut change
    report result
