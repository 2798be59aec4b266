import CrateShelf.Finder.EditDistance
import CrateShelf.Store.Basic
import CrateShelf.Text.Split

/-!
# Looking up names

A name is looked for in the paths of all locations, in whatever case.  Where
segments of the name are segments of paths, only those paths count; which
these are is told by a table that is kept until the locations change.  Of the
versions of a crate that have an item, the newest is reported.
-/

namespace CrateShelf

/-- Whether the identity of an item can be told from others: only labels
that need no look into them can. -/
def Location.ItemKey.isAtomic (key : Location.ItemKey) : Bool :=
  [key.crateName, key.name, key.discriminator].all Label.isAtomic

namespace Store

/-! ## Keywords -/

/-- A text in lower case. -/
def lowered (text : String) : String :=
  String.ofList (Text.lower text.toList)

/-- The segments of a location's path in lower case. -/
def keywordsOf (location : Location) : List String :=
  location.path.segments.map lowered

/-- The numbers of the locations that have a segment. -/
def numbersWith (locations : List Location) (segment : String) : List Nat :=
  (List.range locations.length).filter fun number =>
    (locations[number]?).any fun location =>
      (keywordsOf location).contains segment

/-- The segments of all locations in lower case, each with the numbers of
the locations that have it, in order. -/
def keywordTable (locations : List Location) : List (String × List Nat) :=
  let segments := (locations.flatMap keywordsOf).eraseDups
  (segments.mergeSort (· ≤ ·)).map fun segment =>
    (segment, numbersWith locations segment)

/-- The table of the segments of all locations, which is remembered. -/
def keywords [Depths] (store : Store) : Job StoreError (List (String × List Nat)) := do
  match (← get).keywords? with
  | some table => return table
  | none =>
    let table := keywordTable (← store.allLocations)
    modify fun world => { world with keywords? := some table }
    return table

/-! ## Candidates -/

/-- What is looked for: the query in lower case without the blanks around
it. -/
def needleOf (query : String) : String :=
  lowered (String.ofList (Text.trim query.toList))

/-- The segments of a name that are written in it. -/
def segmentsOf (needle : String) : List String :=
  ((Text.splitAtPair ':' needle.toList).map String.ofList).filter (· != "")

/-- The numbers left by the segments so far, if any of them was known, with
one segment more.  A segment that no location has leaves them as they
are. -/
def narrow (table : List (String × List Nat)) (candidates? : Option (List Nat))
    (segment : String) : Option (List Nat) :=
  match table.lookup segment, candidates? with
  | none, _ => candidates?
  | some numbers, none => some numbers
  | some numbers, some candidates =>
    some (candidates.filter numbers.contains)

/-- The numbers of the locations that have the segments of a name that any
location has. -/
def numbersFor (table : List (String × List Nat)) (count : Nat)
    (needle : String) : List Nat :=
  match (segmentsOf needle).foldl (narrow table) none with
  | some candidates => candidates
  | none => List.range count

/-- Whether a name occurs in the path of a location. -/
def mentions (needle : String) (location : Location) : Bool :=
  Text.occursIn needle.toList (Text.lower location.path.toText.toList)

/-! ## Versions -/

/-- The key of the version of a location.  Only a text has one. -/
def versionKey (location : Location) : Except StoreError VersionKey :=
  match location.crate.version with
  | .text version => (VersionKey.ofVersion version).mapError .version
  | .bytes _ => .error .fileless
  | _ => .error (.unexpected (.content .unusable))

/-- Whether a location is of a newer version than another. -/
def isNewer (location current : Location) : Except StoreError Bool := do
  let key ← versionKey location
  return key.newer (← versionKey current)

/-- The locations found so far with one more: a newer version of the item
takes the place of an older one. -/
def replaceOlder (location : Location) :
    List Location → Except StoreError (List Location)
  | [] => .ok [location]
  | current :: rest =>
    if current.itemKey = location.itemKey then do
      return (if ← isNewer location current then location else current) :: rest
    else do
      return current :: (← replaceOlder location rest)

/-- The locations found so far with one more, if its item can be told from
others. -/
def keepNewest (found : List Location) (location : Location) :
    Except StoreError (List Location) :=
  if location.itemKey.isAtomic then replaceOlder location found
  else .error .fileless

/-! ## Answers -/

/-- How far the path of a location is from a name, and its text. -/
def rankFor (needle : String) (location : Location) : Nat × String :=
  let text := location.path.toText
  (Finder.editDistance (lowered text) needle, text)

/-- Whether the first of two ranks is at most the second. -/
def precedes (first second : Nat × String) : Bool :=
  first.1 < second.1 || (first.1 == second.1 && first.2 ≤ second.2)

/-- The locations of a name, the closest first. -/
def find (locations : List Location) (table : List (String × List Nat))
    (needle : String) : Except StoreError (List Location) := do
  let numbers := numbersFor table locations.length needle
  let candidates := numbers.filterMap (locations[·]?)
  let found ← (candidates.filter (mentions needle)).foldlM keepNewest []
  let measured := found.map fun location =>
    (rankFor needle location, location)
  return (measured.mergeSort fun first second =>
    precedes first.1 second.1).map (·.2)

/-- The locations of a name in the store. -/
def lookup [Depths] (store : Store) (query : String) :
    Job StoreError (List Location) := do
  let needle := needleOf query
  if needle = "" then return []
  else
    let locations ← store.allLocations
    let table ← store.keywords
    Job.ofExcept id (find locations table needle)

end Store

end CrateShelf
