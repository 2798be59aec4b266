import CrateShelf.Finder.Catalog
import CrateShelf.Proofs.Association
import CrateShelf.Proofs.Finder.Ranking
import CrateShelf.Proofs.Finder.Session
import CrateShelf.Proofs.StableSort

/-!
# Queries to a catalog

Locations are registered, queries are run and all is forgotten in any order.
The running search goes on from query to query until new locations are
registered, but what a query answers does not show it.

Main statement: a query answers what it would answer if the different
locations registered since all was forgotten had just been registered, namely
the results of a new search, sorted stably by their distance from the query.
-/

namespace CrateShelf.Finder.Catalog

/-! ## Known locations -/

/-- Adding locations one by one keeps the different ones, in the order in
which they were first met. -/
theorem addNew_eraseDups (known new : List Location) :
    addNew known.eraseDups new = (known ++ new).eraseDups := by
  induction new generalizing known with
  | nil => simp [addNew]
  | cons location new inductionStep =>
      have next := inductionStep (known ++ [location])
      rw [eraseDups_concat, List.append_assoc, List.singleton_append] at next
      rw [← next, addNew, List.foldl_cons, addNew]
      simp only [List.mem_eraseDups]

/-- New locations come behind the known ones. -/
theorem prefix_addNew (known new : List Location) :
    known <+: addNew known new := by
  induction new generalizing known with
  | nil => exact List.prefix_refl known
  | cons location new inductionStep =>
      rw [addNew, List.foldl_cons]
      split
      · exact inductionStep known
      · exact (List.prefix_append known [location]).trans (inductionStep _)

theorem nodup_addNew
    {known : List Location}
    (different : known.Nodup)
    (new : List Location) :
    (addNew known new).Nodup := by
  induction new generalizing known with
  | nil => exact different
  | cons location new inductionStep =>
      rw [addNew, List.foldl_cons]
      split
      · exact inductionStep different
      · rename_i absent
        apply inductionStep
        rw [List.nodup_append]
        refine ⟨different, List.pairwise_singleton _ location, ?_⟩
        rintro first member second alone rfl
        exact absent (List.mem_singleton.1 alone ▸ member)

theorem addNew_of_nodup
    {known new : List Location}
    (different : (known ++ new).Nodup) :
    addNew known new = known ++ new := by
  induction new generalizing known with
  | nil => simp [addNew]
  | cons location new inductionStep =>
      have absent : location ∉ known := by
        intro member
        exact (List.nodup_append.1 different).2.2 location member location
          List.mem_cons_self rfl
      rw [List.append_cons] at different
      have others := inductionStep different
      rw [addNew, List.foldl_cons, if_neg absent, ← addNew, others,
        ← List.append_cons]

/-- Different locations are registered as they are. -/
@[simp]
theorem addNew_nil_eraseDups (locations : List Location) :
    addNew [] locations.eraseDups = locations.eraseDups := by
  have different : (addNew [] locations).Nodup :=
    nodup_addNew List.nodup_nil locations
  have all := addNew_eraseDups [] locations
  rw [List.eraseDups_nil, List.nil_append] at all
  rw [all] at different
  exact addNew_of_nodup different

/-! ## Operations -/

/-- What can be done with a catalog. -/
inductive Operation where
  | register (locations : List Location)
  | reset
  | clear
  | query (text : String)
deriving Repr

/-- The catalog after an operation. -/
def perform (catalog : Catalog) : Operation → Catalog
  | .register new => catalog.register new
  | .reset => catalog.reset
  | .clear => catalog.clear
  | .query text => (catalog.run text).2

/-- The catalog after some operations, one after the other. -/
def performAll (catalog : Catalog) (operations : List Operation) : Catalog :=
  operations.foldl perform catalog

/-- The locations registered since all was forgotten, after one operation
more. -/
def registeredAfter (known : List Location) : Operation → List Location
  | .register new => known ++ new
  | .clear => []
  | .reset | .query _ => known

/-- The locations registered since all was forgotten, each as often as it
was. -/
def registered (operations : List Operation) : List Location :=
  operations.foldl registeredAfter []

/-! ## The state of a catalog -/

/-- What holds of a catalog of some locations, whatever search is running. -/
structure Serves
    (limit : Int)
    (locations : List Location)
    (catalog : Catalog) : Prop where
  sameLimit : catalog.limit = limit
  sameLocations : catalog.locations = locations
  session : ∀ search ∈ catalog.session,
    Search.Settled (locations.map (·.searchKey)) limit search

variable
    {limit : Int}
    {locations : List Location}
    {catalog : Catalog}

theorem serves_empty (limit : Int) : Serves limit [] (empty limit) where
  sameLimit := rfl
  sameLocations := rfl
  session := by simp [empty]

theorem Serves.reset (serves : Serves limit locations catalog) :
    Serves limit locations catalog.reset where
  sameLimit := serves.sameLimit
  sameLocations := serves.sameLocations
  session := by simp [Catalog.reset]

theorem Serves.clear (serves : Serves limit locations catalog) :
    Serves limit [] catalog.clear where
  sameLimit := serves.sameLimit
  sameLocations := rfl
  session := by simp [Catalog.clear]

/-- A search goes on only if nothing new was registered. -/
theorem Serves.register
    (serves : Serves limit locations catalog)
    (new : List Location) :
    Serves limit (addNew locations new) (catalog.register new) where
  sameLimit := serves.sameLimit
  sameLocations := by rw [← serves.sameLocations, Catalog.register]
  session := by
    intro search running
    rw [Catalog.register, serves.sameLocations] at running
    dsimp only at running
    split at running
    · rename_i sameLength
      have same :=
        (prefix_addNew locations new).eq_of_length sameLength.symm
      rw [← same]
      exact serves.session search running
    · simp at running

/-- The search after a query is the running one, or a new one, with its
query replaced. -/
theorem searchFor_eq (catalog : Catalog) (text : String) :
    catalog.searchFor text =
      (catalog.session.getD
        (Search.start (catalog.locations.map (·.searchKey))
          catalog.limit)).setQuery text.toList := by
  unfold searchFor searchSteps Search.setQuery
  cases catalog.session with
  | none => exact List.getLastD_cons
  | some search => rfl

theorem Serves.searchFor
    (serves : Serves limit locations catalog)
    (text : String) :
    Search.Settled (locations.map (·.searchKey)) limit
      (catalog.searchFor text) := by
  rw [searchFor_eq, serves.sameLocations, serves.sameLimit]
  apply Search.Settled.setQuery
  cases running : catalog.session with
  | none => exact Search.settled_start _ _
  | some search => exact serves.session search running

theorem Serves.run
    (serves : Serves limit locations catalog)
    (text : String) :
    Serves limit locations (catalog.run text).2 where
  sameLimit := serves.sameLimit
  sameLocations := serves.sameLocations
  session := by
    rintro _ ⟨⟩
    exact serves.searchFor text

theorem Serves.perform
    {known : List Location}
    (serves : Serves limit known.eraseDups catalog)
    (operation : Operation) :
    Serves limit (registeredAfter known operation).eraseDups
      (catalog.perform operation) := by
  cases operation with
  | register new =>
      rw [registeredAfter, ← addNew_eraseDups]
      exact serves.register new
  | reset => exact serves.reset
  | clear => exact serves.clear
  | query text => exact serves.run text

/-- Whatever was done, a catalog serves the different locations registered
since all was forgotten. -/
theorem serves_performAll (limit : Int) (operations : List Operation) :
    Serves limit (registered operations).eraseDups
      ((empty limit).performAll operations) := by
  have all :
      ∀ known catalog, Serves limit known.eraseDups catalog →
        Serves limit (operations.foldl registeredAfter known).eraseDups
          (performAll catalog operations) := by
    induction operations with
    | nil => exact fun _ _ serves => serves
    | cons operation operations inductionStep =>
        exact fun known catalog serves =>
          inductionStep _ _ (serves.perform operation)
  exact all [] (empty limit) (serves_empty limit)

/-! ## Answers -/

/-- How far the path of the location with a number is from a text. -/
def distanceTo
    (locations : List Location)
    (text : String)
    (index : Nat) : Nat :=
  (locations[index]?.map fun location =>
    editDistance location.path.toText text).getD 0

/-- The results that a new search over locations has for a query. -/
def rankedFor
    (limit : Int)
    (locations : List Location)
    (text : String) : List Nat :=
  ((Search.start (locations.map (·.searchKey)) limit).append
    text.toList).results

/-- The running search has the results of a new one. -/
theorem Serves.results_searchFor
    (serves : Serves limit locations catalog)
    (text : String) :
    (catalog.searchFor text).results = rankedFor limit locations text := by
  have fresh :
      Search.Settled (locations.map (·.searchKey)) limit
        ((Search.start (locations.map (·.searchKey)) limit).append
          text.toList) :=
    (Search.settled_start _ _).append _
  refine ((serves.searchFor text).agree fresh ?_).2.2
  rw [searchFor_eq, Search.typed_setQuery, Search.typed_append]
  simp [Search.start, Search.rank]

/-- Results are numbers of locations, each at most once. -/
theorem rankedFor_subperm
    (limit : Int)
    (locations : List Location)
    (text : String) :
    (rankedFor limit locations text).Subperm
      (List.range locations.length) := by
  have settled :
      Search.Settled (locations.map (·.searchKey)) limit
        ((Search.start (locations.map (·.searchKey)) limit).append
          text.toList) :=
    (Search.settled_start _ _).append _
  have ranked := Search.lines_ranking_subperm
    ((Search.start (locations.map (·.searchKey)) limit).append text.toList)
  rw [← settled.results, settled.candidates_eq] at ranked
  have within :
      (survivors (locations.map (·.searchKey))
        ((Search.start (locations.map (·.searchKey)) limit).append
          text.toList).typed.reverse).Sublist
        (List.range (locations.map (·.searchKey)).length) :=
    List.filter_sublist
  simpa [rankedFor] using ranked.trans within.subperm

/-- Every number of a location makes a hit with that number. -/
theorem map_index_filterMap_hit
    {indices : List Nat}
    (within : ∀ index ∈ indices, index < catalog.locations.length) :
    (indices.filterMap catalog.hit?).map (·.index) = indices := by
  rw [List.map_filterMap]
  have each : ∀ index ∈ indices,
      (catalog.hit? index).map (·.index) = some index := by
    intro index member
    rw [hit?, List.getElem?_eq_getElem (within index member)]
    rfl
  rw [List.filterMap_congr each, List.filterMap_some]

/-- The hits of a query are those of the running search, sorted stably by
their distance. -/
theorem isStableSort_run (catalog : Catalog) (text : String) :
    IsStableSort (catalog.hitDistance text)
      ((catalog.searchFor text).results.filterMap catalog.hit?)
      (catalog.run text).1 := by
  have sorted :=
    map_mergeSort_measured (catalog.hitDistance text) (· ≤ ·)
      ((catalog.searchFor text).results.filterMap catalog.hit?)
  have stable :=
    isStableSort_mergeSort (catalog.hitDistance text)
      ((catalog.searchFor text).results.filterMap catalog.hit?)
  rwa [← sorted] at stable

/-- What a query answers depends on the locations alone. -/
theorem Serves.run_eq
    {other : Catalog}
    (serves : Serves limit locations catalog)
    (otherServes : Serves limit locations other)
    (text : String) :
    (catalog.run text).1 = (other.run text).1 := by
  have sameHit : catalog.hit? = other.hit? := by
    funext index
    rw [hit?, hit?, serves.sameLocations, otherServes.sameLocations]
  have sameDistance :
      catalog.hitDistance text = other.hitDistance text := by
    funext hit
    rw [hitDistance, hitDistance, serves.sameLocations,
      otherServes.sameLocations]
  simp only [Catalog.run, serves.results_searchFor,
    otherServes.results_searchFor, sameHit, sameDistance]

/-- The numbers of the hits of a query are the ranked results, sorted stably
by their distance. -/
theorem Serves.isStableSort_indices
    (serves : Serves limit locations catalog)
    (text : String) :
    IsStableSort (distanceTo locations text)
      (rankedFor limit locations text)
      ((catalog.run text).1.map (·.index)) := by
  have within :
      ∀ index ∈ rankedFor limit locations text,
        index < catalog.locations.length := by
    intro index member
    rw [serves.sameLocations]
    exact List.mem_range.1
      ((rankedFor_subperm limit locations text).subset member)
  have sorted :=
    (isStableSort_run catalog text).map (distanceTo locations text)
      (·.index) fun hit _ => by
        rw [distanceTo, hitDistance, serves.sameLocations]
        cases locations[hit.index]? <;> rfl
  rwa [serves.results_searchFor, map_index_filterMap_hit within] at sorted

/-- A query answers with as many of the locations that are left as the limit
allows. -/
theorem Serves.length_run
    (serves : Serves limit locations catalog)
    (text : String) :
    (catalog.run text).1.length =
      min limit.toNat
        (survivors (locations.map (·.searchKey)) text.toList).length := by
  have count := (serves.isStableSort_indices text).perm.length_eq
  have settled := serves.searchFor text
  have typed : (catalog.searchFor text).typed.reverse = text.toList := by
    rw [searchFor_eq, Search.typed_setQuery, List.reverse_reverse]
  rw [List.length_map, ← serves.results_searchFor, settled.length_results,
    settled.candidates_eq, typed] at count
  exact count

/-- A hit shows the location with its number. -/
theorem exists_get?_of_mem_run
    {hit : Hit}
    {text : String}
    (member : hit ∈ (catalog.run text).1) :
    ∃ location,
      (catalog.run text).2.get? hit.index = some location ∧
        hit.display = location.display := by
  rw [(isStableSort_run catalog text).perm.mem_iff, List.mem_filterMap]
    at member
  obtain ⟨index, _, found⟩ := member
  obtain ⟨location, known, rfl⟩ := Option.map_eq_some_iff.1 found
  exact ⟨location, by simpa [get?, Catalog.run] using known, rfl⟩

/--
Whatever was registered, asked and forgotten before, a query answers what it
would answer if the different locations registered since all was forgotten
had just been registered.  The answers have different numbers and show the
locations with these numbers; they are the ranked results of the running
search, sorted stably by the distance of their path from the query.
-/
theorem run_performAll
    (limit : Int)
    (operations : List Operation)
    (text : String) :
    let catalog := (empty limit).performAll operations
    let different := (registered operations).eraseDups
    let hits := (catalog.run text).1
    let later := (catalog.run text).2
    hits = (((empty limit).register different).run text).1 ∧
      (hits.map (·.index)).Nodup ∧
      (∀ hit ∈ hits, ∃ location,
        later.get? hit.index = some location ∧
          hit.display = location.display) ∧
      ∃ session, later.session = some session ∧
        session.query = text ∧
        session.results = rankedFor limit different text ∧
        IsStableSort (distanceTo different text) session.results
          (hits.map (·.index)) := by
  intro catalog different hits later
  have serves : Serves limit different catalog :=
    serves_performAll limit operations
  have fresh : Serves limit different ((empty limit).register different) := by
    have registered := (serves_empty limit).register different
    rwa [addNew_nil_eraseDups] at registered
  have sorted := serves.isStableSort_indices text
  refine ⟨serves.run_eq fresh text, ?_, fun hit => exists_get?_of_mem_run,
    catalog.searchFor text, rfl, ?_, serves.results_searchFor text, ?_⟩
  · rw [sorted.perm.nodup_iff]
    obtain ⟨kept, same, part⟩ := rankedFor_subperm limit different text
    exact same.nodup_iff.1 (List.nodup_range.sublist part)
  · rw [searchFor_eq, Search.query, Search.typed_setQuery]
    simp
  · rw [serves.results_searchFor]
    exact sorted

end CrateShelf.Finder.Catalog
