import CrateShelf.Record.Codec
import CrateShelf.Store.Place
import CrateShelf.Version
import CrateShelf.World

/-!
# The store

Records are kept in files below a registry, with one file more that lists
them all.  If that file is missing or cannot be read, the records themselves
tell what there is.
-/

namespace CrateShelf

/-- The store of a registry. -/
structure Store where
  registry : DiskPath
deriving DecidableEq, Repr

/-- Why the store cannot do something. -/
inductive StoreError where
  | unwritable (directory : DiskPath) (fault : DiskFault)
  | unwritableIndex (file : DiskPath) (fault : DiskFault)
  | unreadable (file : DiskPath) (fault : DiskFault)
  | corrupt (file : DiskPath) (error : Record.DecodeError)
  | missing (file : DiskPath)
  /-- The disk refuses to say what there is. -/
  | disk (fault : DiskFault)
  /-- A file that holds something no store writes, so that it is not even
  refused. -/
  | unexpected (error : Record.DecodeError)
  /-- Locations whose labels are of no use: there is no file of such a name,
  or there is no order among them. -/
  | fileless
  /-- A record or an index that cannot be packed. -/
  | unpackable (error : Pack.WriteError)
  | version (error : NumberError)

/-- The wording of an error, for those that have one. -/
def StoreError.message? : StoreError → Option String
  | unwritable directory _ =>
    some ("Failed to write documentation: " ++ directory.toText)
  | unwritableIndex file _ =>
    some ("Failed to write store index: " ++ file.toText)
  | unreadable file _ =>
    some ("Failed to read documentation: " ++ file.toText)
  | corrupt file _ => some ("Corrupt documentation record: " ++ file.toText)
  | missing file => some ("Documentation record not found: " ++ file.toText)
  | disk _ | unexpected _ | fileless => none
  | unpackable error => error.message?
  | version error => some error.message

/-- The error for a fault of the disk, unless it is one that is not
foreseen. -/
def StoreError.ofFault (foreseen : DiskFault → StoreError)
    (fault : DiskFault) : StoreError :=
  if fault.cause = .invalidName then .disk fault else foreseen fault

/-- Whether content is refused for what it is.  Other faults are not
foreseen. -/
def Record.DecodeError.isRefusal : Record.DecodeError → Bool
  | undecodable .tooDeep | content .unusable => false
  | _ => true

namespace Store

/-- The directory of the documentation of a registry. -/
def docRoot (registry : DiskPath) : DiskPath := registry.child "doc"

variable [Depths] (store : Store)

/-- The directory of the store. -/
def root : DiskPath := docRoot store.registry

/-- The file that lists all records. -/
def indexFile : DiskPath := store.root.child "store"

/-- The file that becomes the list of all records once it is written. -/
def freshIndexFile : DiskPath := store.root.child "store.tmp"

/-- The file of a record. -/
def recordFile (location : Location) : DiskPath :=
  store.root.join (relativePath location)

/-- The directory of the records of a crate. -/
def crateDirectory (crate : CrateId) : DiskPath :=
  store.root.child crate.dirName

/-! ## Reading -/

/-- The locations in the file that lists them, if it is there and can be
read. -/
def readIndex : Job StoreError (Option (List Location)) := do
  if ← Job.ask .disk (·.isFile store.indexFile) then
    let bytes ← Job.ask .disk (·.read store.indexFile)
    match Record.decodeIndex bytes with
    | .ok locations => return some locations
    | .error error =>
      if error.isRefusal then
        Job.note ⟨.error, "store", "Store index " ++ store.indexFile.toText ++
          " is unreadable; falling back to a scan"⟩
        return none
      else throw (.unexpected error)
  else return none

/-- The files of records below a directory, in order. -/
def recordFiles (files : FileTree) (directory : DiskPath) : List DiskPath :=
  DiskPath.sort (((files.descend directory).map (·.1)).filter fun path =>
    path.name.endsWith Location.fileEnding)

/-- What is said about a file that is passed over. -/
def skipEntry (text : String) (file : DiskPath) : LogEntry :=
  ⟨.warning, "store", text ++ file.toText⟩

/-- The location of the record in a file, if there is one. -/
def scanFile (file : DiskPath) : Job StoreError (Option Location) := do
  match Location.nameOf file.name with
  | .error _ =>
    Job.note (skipEntry "Skipping record with malformed file name " file)
    return none
  | .ok name =>
    let unreadable := skipEntry "Skipping unreadable record " file
    match (← get).files.read file with
    | .error _ =>
      Job.note unreadable
      return none
    | .ok bytes =>
      match Record.decode bytes with
      | .error error =>
        if error.isRefusal then
          Job.note unreadable
          return none
        else throw (.unexpected error)
      | .ok record =>
        if record.name ≠ name then
          Job.note ⟨.warning, "store", "Record " ++ file.toText ++
            " stores item " ++ record.name.shown⟩
        return some (record.location (Location.discriminatorOf file.name))

/-- The locations of all records below a directory. -/
def scan (directory : DiskPath) : Job StoreError (List Location) := do
  if ← Job.ask .disk (·.isDirectory directory) then
    let found ← (recordFiles (← get).files directory).mapM scanFile
    let locations := found.filterMap id
    unless Location.canSort locations do throw .fileless
    return Location.sort locations
  else return []

/-- The locations in the list, or those of all records. -/
def readLocations : Job StoreError (List Location) := do
  match ← store.readIndex with
  | some locations => return locations
  | none => scan store.root

/-- All locations, which are remembered. -/
def allLocations : Job StoreError (List Location) := do
  match (← get).known? with
  | some locations => return locations
  | none =>
    let locations ← store.readLocations
    modify fun world => { world with known? := some locations }
    return locations

/-- Whether a file holds the record of an item. -/
def holds (files : FileTree) (key : Location.ItemKey) (file : DiskPath) :
    Except Record.DecodeError Bool :=
  match files.read file with
  | .error _ => .ok false
  | .ok bytes =>
    match Record.decode bytes with
    | .ok record =>
      .ok (decide ((record.location
        (Location.discriminatorOf file.name)).itemKey = key))
    | .error error => if error.isRefusal then .ok false else .error error

/-- The first file that holds the record of an item. -/
def firstHolding (files : FileTree) (key : Location.ItemKey) :
    List DiskPath → Except Record.DecodeError (Option DiskPath)
  | [] => .ok none
  | file :: rest =>
    match holds files key file with
    | .ok true => .ok (some file)
    | .ok false => firstHolding files key rest
    | .error error => .error error

/-- The file that holds a record, wherever it is in the crate's
directory. -/
def findRecord (location : Location) : Job StoreError DiskPath := do
  let directory := store.crateDirectory location.crate
  let found? ←
    if ← Job.ask .disk (·.isDirectory directory) then
      let files := (← get).files
      Job.ofExcept .unexpected
        (firstHolding files location.itemKey (recordFiles files directory))
    else pure none
  match found? with
  | some file => return file
  | none => throw (.missing (store.recordFile location))

/-- Reads a record. -/
def load (location : Location) : Job StoreError Record := do
  unless location.hasFile do throw .fileless
  let usual := store.recordFile location
  let file ←
    if ← Job.ask .disk (·.isFile usual) then pure usual
    else store.findRecord location
  let bytes ← Job.ask (.unreadable file) (·.read file)
  match Record.decode bytes with
  | .ok record => return record
  | .error error =>
    if error.isRefusal then throw (.corrupt file error)
    else throw (.unexpected error)

/-! ## Writing -/

/-- Writes the list of all records: a new file takes the place of the old
one only when it is complete. -/
def writeIndex (locations : List Location) : Job StoreError Unit := do
  let blame := StoreError.ofFault (.unwritableIndex store.indexFile)
  Job.change blame (·.ensureDirectories store.root)
  unless Location.canSort locations do throw .fileless
  if let some error := (Record.indexValue locations).writeError? then
    throw (.unpackable error)
  Job.change blame (·.write store.freshIndexFile
    (Record.encodeIndex locations))
  Job.change blame (·.rename store.freshIndexFile store.indexFile)
  modify fun world =>
    { world with
      known? := some (Location.sort locations), keywords? := none }

/-- Writes the file of a record. -/
def writePlaced (blame : DiskFault → StoreError) (placed : Placed) :
    Job StoreError Unit :=
  Job.change blame
    (·.place (store.recordFile placed.location) placed.content)

/-- Replaces all records of a crate, then the list of all records. -/
def writeCrate (crate : CrateId) (records : List Record) :
    Job StoreError (List Location) := do
  unless records.all (·.name.isText) do throw .fileless
  if let some error := records.findSome? (·.toValue.writeError?) then
    Job.noteAll (place (records.takeWhile (·.toValue.fits))).2
    throw (.unpackable error)
  let directory := store.crateDirectory crate
  let blame := StoreError.ofFault (.unwritable directory)
  let (placed, entries) := place records
  Job.noteAll entries
  if ← Job.ask blame (·.isTaken directory) then
    Job.change blame (·.removeTree directory)
  placed.forM (store.writePlaced blame)
  let locations := placed.map (·.location)
  let previous ← store.readLocations
  store.writeIndex
    (previous.filter (fun location => location.crate ≠ crate) ++ locations)
  Job.note ⟨.info, "store", "Stored " ++ toString locations.length ++
    " records for " ++ crate.toText⟩
  return locations

end Store

end CrateShelf
