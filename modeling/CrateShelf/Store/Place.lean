import CrateShelf.Digest
import CrateShelf.Disk.Path
import CrateShelf.Log
import CrateShelf.Text.Casing

/-!
# Files for records

Each record of a crate gets a file of its own.  Where two records would share
a file, also on disks that do not tell letters by case, the later one gets a
discriminator made of its content.  Records that still share a file are the
same record, and the later one counts.
-/

namespace CrateShelf.Store

/-- The path of a record below the root of the store. -/
def relativePath (location : Location) : DiskPath :=
  (location.directory.foldl DiskPath.child ⟨"", []⟩).child location.fileName

/-- What files are told apart by. -/
def fileKey (location : Location) : String :=
  String.ofList (Text.foldCase (relativePath location).toText.toList)

/-- A record's location and the content of its file. -/
structure Placed where
  location : Location
  content : Bytes
deriving DecidableEq, Repr

/-- Placed records, by what their files are told apart by. -/
abbrev Places := List (String × Placed)

namespace Places

/-- The places with one more, in the place of an earlier one with its key. -/
def put (places : Places) (key : String) (placed : Placed) : Places :=
  match places with
  | [] => [(key, placed)]
  | (known, other) :: rest =>
    if known = key then (known, placed) :: rest
    else (known, other) :: put rest key placed

/-- The location that a record gets. -/
def locationFor (places : Places) (record : Record) : Location :=
  let plain := record.location ""
  if (places.lookup (fileKey plain)).isSome then
    record.location record.discriminator
  else plain

/-- The places with those of one more record. -/
def add (places : Places) (record : Record) : Places :=
  let location := places.locationFor record
  places.put (fileKey location) ⟨location, record.encode⟩

/-- What is said about a record that gets a discriminator. -/
def entries (places : Places) (record : Record) : List LogEntry :=
  let location := places.locationFor record
  if (places.lookup (fileKey (record.location ""))).isSome then
    [⟨.debug, "store", "Disambiguated " ++ location.path.toText ++ " as " ++
      location.fileName⟩]
  else []

end Places

/-- The places of records, and what is said about them. -/
def placeFrom (places : Places) : List Record → Places × List LogEntry
  | [] => (places, [])
  | record :: rest =>
    let more := placeFrom (places.add record) rest
    (more.1, places.entries record ++ more.2)

/-- The locations and contents of records, in order. -/
def place (records : List Record) : List Placed × List LogEntry :=
  let placed := placeFrom [] records
  (placed.1.map (·.2), placed.2)

end CrateShelf.Store
