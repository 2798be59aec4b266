import CrateShelf.CrateId
import CrateShelf.FileName
import CrateShelf.ItemPath
import CrateShelf.Kind

/-!
# Locations of records

A location is the address of a record in the store.  Its file lies in the
crate's directory, below one directory per segment of the enclosing path; the
file name is made of the kind and the item's name, and of a discriminator
where two records of one crate would otherwise share a file.
-/

namespace CrateShelf

/-- The address of a record. -/
structure Location where
  crate : CrateId
  path : ItemPath
  name : Label
  kind : Kind
  discriminator : Label := ""
deriving DecidableEq, Repr, Inhabited

namespace Location

/-- The ending of every record file. -/
def fileEnding : String := ".odoc"

/-- What stands between a name and its discriminator. -/
def discriminatorMark : Char := '~'

/-- The discriminator with its mark, if there is one. -/
def marked (location : Location) : String :=
  if location.discriminator.isTruthy then
    discriminatorMark.toString ++ location.discriminator.written
  else ""

/-- The name of the record's file. -/
def fileName (location : Location) : String :=
  location.kind.fileMark ++ FileName.encode location.name.written ++
    location.marked ++ fileEnding

/-- Whether the record has a file: only texts make a file name. -/
def hasFile (location : Location) : Bool :=
  location.name.isText &&
    (location.discriminator.isText || !location.discriminator.isTruthy)

/-- Whether the location can be told apart from others without a look into
its labels. -/
def isAtomic (location : Location) : Bool :=
  [location.crate.name, location.crate.version, location.name,
    location.discriminator].all Label.isAtomic

/-- The directory of the record below the documentation root, component by
component. -/
def directory (location : Location) : List String :=
  location.crate.dirName ::
    location.path.pop.segments.map FileName.encode

/-- The text that queries are matched against. -/
def searchKey (location : Location) : String :=
  location.path.toText ++ " (" ++ location.crate.toText ++ ")"

/-- The line shown for the location. -/
def display (location : Location) : String :=
  location.path.toText ++ " [" ++ location.kind.name ++ location.marked ++
    "] (" ++ location.crate.toText ++ ")"

instance : ToString Location := ⟨display⟩

/-- The identity of an item in whatever version of its crate. -/
structure ItemKey where
  crateName : Label
  path : ItemPath
  kind : Kind
  name : Label
  discriminator : Label
deriving DecidableEq, Repr

/-- The identity of the item that a location is about. -/
def itemKey (location : Location) : ItemKey :=
  ⟨location.crate.name, location.path, location.kind, location.name,
    location.discriminator⟩

/-- Locations are ordered by crate name, version, path, kind name, item name
and discriminator, if the first of these that are not the same have an
order. -/
def order? (first second : Location) : Option Ordering :=
  Label.orElse (Label.order? first.crate.name second.crate.name) <|
  Label.orElse (Label.order? first.crate.version second.crate.version) <|
  Label.orElse
    (some (compareOfLessAndEq first.path.segments second.path.segments)) <|
  Label.orElse (some (compareOfLessAndEq first.kind.name second.kind.name)) <|
  Label.orElse (Label.order? first.name second.name)
    (Label.order? first.discriminator second.discriminator)

/-- Whether a location may stand before another in a sorted list. -/
def atMost (first second : Location) : Bool :=
  first.order? second != some .gt

/-- Whether the location is told apart from others by texts only, none of
them torn. -/
def isTextual (location : Location) : Bool :=
  [location.crate.name, location.crate.version, location.name,
    location.discriminator].all (·.isWholeText)

/-- Whether locations can be put in order.  Those told apart by texts always
can. -/
def canSort (locations : List Location) : Bool :=
  locations.all isTextual ||
    decide (locations.Pairwise fun first second =>
      (first.order? second).isSome = true)

/-- The locations in order. -/
def sort (locations : List Location) : List Location :=
  locations.mergeSort atMost

/-- The discriminator in the name of a record's file, if there is one. -/
def discriminatorOf (file : String) : String :=
  let stem := Text.dropEnding fileEnding.toList file.toList
  String.ofList ((Text.afterLast? discriminatorMark stem).getD [])

/-- The name of the item whose record has a file of the given name: what
stands behind the last hyphen and before the first discriminator mark. -/
def nameOf (file : String) : Except FileName.DecodeError String :=
  let stem := Text.dropEnding fileEnding.toList file.toList
  let front := (Text.cutFirst discriminatorMark stem).1
  FileName.decode
    (String.ofList ((Text.afterLast? '-' front).getD front))

end Location

end CrateShelf
