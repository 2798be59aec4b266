import CrateShelf.Fault

/-!
# Indexing crates

A crate is indexed by reading its manifest and its source and putting its
records into the store.  All crates of a registry are indexed one after the
other; one that fails does not keep the others from being indexed.
-/

namespace CrateShelf

namespace Indexing

variable [Depths]

/-- The file that the source of a crate starts from. -/
def entryFile (directory : DiskPath) : Job Fault DiskPath := do
  let found? ← Job.ask .disk fun files =>
    Tree.firstFile? files (Manifest.entryFiles directory)
  match found? with
  | some file => return file
  | none => throw (.noEntry directory)

/-- The name and version of the crate in a directory. -/
def readManifest (directory : DiskPath) : Job Fault CrateId := do
  Job.ofExcept .manifest (Manifest.read (← get).files directory)

/-- The records of a crate from the text of its root file. -/
def document (crate : CrateId) (skipsHidden : Bool) (text : String)
    (file? : Option DiskPath) : Job Fault (List Record) := do
  let (result, log) :=
    Tree.document (← get).files crate skipsHidden text file?
  Job.noteAll log
  Job.ofExcept .tree result

/-- Puts records of a crate into a store. -/
def write (store : Store) (crate : CrateId) (records : List Record) :
    Job Fault (List Location) :=
  Job.adapt .store (store.writeCrate crate records)

/-- Indexes the crate in a directory. -/
def indexCrate (store : Store) (settings : Settings)
    (directory : DiskPath) : Job Fault (List Location) := do
  let crate ← readManifest directory
  let entry ← entryFile directory
  let skipsHidden ← Job.ofExcept .misuse settings.skipsHidden
  Job.note ⟨.info, "index_crate", "Indexing " ++ crate.toText ++ " from " ++
    entry.toText⟩
  let text ← Job.ofExcept (fun cause => .tree (.unreadable entry cause))
    (Tree.readText (← get).files entry)
  let records ← document crate skipsHidden text (some entry)
  write store crate records

/-- The directory of the sources of a registry. -/
def sourceRoot (registry : DiskPath) : DiskPath := registry.child "src"

/-- Whether a directory stands at a path. -/
def isDirectory (files : FileTree) (path : DiskPath) : Bool :=
  match files.isDirectory path with
  | .ok flag => flag
  | .error _ => false

/-- The directories of the crates of a registry, in order. -/
def crateDirectories (files : FileTree) (registry : DiskPath) :
    List DiskPath :=
  let inside (path : DiskPath) : List DiskPath :=
    (files.list path).filter (isDirectory files)
  DiskPath.sort ((inside (sourceRoot registry)).flatMap inside)

/-- What became of the crates of a registry. -/
structure Report where
  indexed : List CrateId := []
  failed : List (DiskPath × Fault) := []

/-- Indexes crates one after the other, counted from a number on. -/
def indexAll (store : Store) (settings : Settings) (total : Nat) :
    Nat → List DiskPath → Job Fault Report
  | _, [] => return {}
  | number, directory :: rest => do
    Job.print ("[" ++ toString number ++ "/" ++ toString total ++ "] " ++
      directory.name)
    match ← Job.attempt (indexCrate store settings directory) with
    | .ok _ =>
      let crate ← readManifest directory
      let more ← indexAll store settings total (number + 1) rest
      return { more with indexed := crate :: more.indexed }
    | .error fault =>
      if fault.isForeseen then
        Job.note ⟨.warning, "index_crate", "Failed to index " ++
          directory.toText ++ ": " ++ fault.shown⟩
        let more ← indexAll store settings total (number + 1) rest
        return { more with failed := (directory, fault) :: more.failed }
      else throw fault

/-- Indexes all crates of a registry. -/
def indexRegistry (store : Store) (settings : Settings)
    (registry : DiskPath) : Job Fault Report := do
  let directories := crateDirectories (← get).files registry
  indexAll store settings directories.length 1 directories

end Indexing

end CrateShelf
