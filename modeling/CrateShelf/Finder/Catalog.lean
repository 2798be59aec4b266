import CrateShelf.Finder.EditDistance
import CrateShelf.Finder.Search
import CrateShelf.Location

/-!
# Catalogs

A catalog holds the locations that can be searched and one running search
over them.  Registering a location that is already there changes nothing;
registering a new one ends the running search.
-/

namespace CrateShelf.Finder

/-- A result of a query: the line to show and the number of its location. -/
structure Hit where
  display : String
  index : Nat
deriving DecidableEq, Repr, Inhabited

/-- Searchable locations and the running search. -/
structure Catalog where
  limit : Int
  locations : List Location
  session : Option Search
deriving Repr, Inhabited

namespace Catalog

/-- The number of results shown when nothing else is configured. -/
def defaultLimit : Nat := 40

/-- A catalog without locations. -/
def empty (limit : Int) : Catalog := ⟨limit, [], none⟩

/-- The locations followed by those of the new ones that they lack. -/
def addNew (known : List Location) (new : List Location) : List Location :=
  new.foldl
    (fun known location =>
      if location ∈ known then known else known ++ [location])
    known

/-- The catalog with more locations. -/
def register (catalog : Catalog) (new : List Location) : Catalog :=
  let locations := addNew catalog.locations new
  { catalog with
    locations
    session :=
      if locations.length = catalog.locations.length then catalog.session
      else none }

/-- The log entry written when locations are registered. -/
def registeredEntry (before after : Catalog) : LogEntry :=
  let added := after.locations.length - before.locations.length
  ⟨.debug, "query_facade",
    s!"Registered {added} new locations ({after.locations.length} total)"⟩

/-- Ends the running search. -/
def reset (catalog : Catalog) : Catalog :=
  { catalog with session := none }

/-- Forgets every location. -/
def clear (catalog : Catalog) : Catalog :=
  { catalog with locations := [], session := none }

/-- The states in which results were ranked on the way to a query. -/
def searchSteps (catalog : Catalog) (text : String) : List Search :=
  match catalog.session with
  | some search => search.steps text.toList
  | none =>
    let fresh :=
      Search.start (catalog.locations.map (·.searchKey)) catalog.limit
    fresh :: fresh.steps text.toList

/-- The search after a query. -/
def searchFor (catalog : Catalog) (text : String) : Search :=
  (catalog.searchSteps text).getLastD
    (catalog.session.getD
      (Search.start (catalog.locations.map (·.searchKey)) catalog.limit))

/-- The hit for a location's number. -/
def hit? (catalog : Catalog) (index : Nat) : Option Hit :=
  catalog.locations[index]?.map fun location => ⟨location.display, index⟩

/-- The distance from a hit's path to a text. -/
def hitDistance (catalog : Catalog) (text : String) (hit : Hit) : Nat :=
  match catalog.locations[hit.index]? with
  | some location => editDistance location.path.toText text
  | none => 0

/-- Runs a query: the visible results of the search, sorted by the distance
from their path to the text; equally distant ones keep their rank. -/
def run (catalog : Catalog) (text : String) : List Hit × Catalog :=
  let search := catalog.searchFor text
  let hits := search.results.filterMap catalog.hit?
  let measured := hits.map fun hit => (catalog.hitDistance text hit, hit)
  let sorted := measured.mergeSort fun first second => first.1 ≤ second.1
  (sorted.map (·.2), { catalog with session := some search })

/-- The location with a number; a negative number counts from the end. -/
def get? (catalog : Catalog) (index : Int) : Option Location :=
  if 0 ≤ index then catalog.locations[index.toNat]?
  else if (-index).toNat ≤ catalog.locations.length then
    catalog.locations[catalog.locations.length - (-index).toNat]?
  else none

end Catalog

end CrateShelf.Finder
