import CrateShelf.Proofs.Disk.Site
import CrateShelf.Proofs.Record.Index
import CrateShelf.Proofs.Store.Place
import CrateShelf.Store.Basic
import Mathlib.Logic.Function.Basic

/-!
# What a store should hold

A shelf tells which records a store should hold, crate by crate.  It is sound
if the records of every crate are and the directories of crates with records
are different.

Main statements: every place of a sound shelf has a file of its own, in the
directory of its crate and under a path that the disk can have; its location
is one that the list of all records is read back with.
-/

namespace CrateShelf

/-! ## Names of files -/

theorem CrateId.mem_hyphen_dirName (crate : CrateId) :
    '-' ∈ crate.dirName.toList := by
  simp [CrateId.dirName]

/-- A name without a hyphen is no crate's directory. -/
theorem CrateId.dirName_ne
    (crate : CrateId)
    {name : String}
    (plain : '-' ∉ name.toList) :
    crate.dirName ≠ name := by
  intro same
  apply plain
  rw [← same]
  exact crate.mem_hyphen_dirName

namespace Location

open CrateShelf.Store

/-- The names that lead from the store's directory to the file of a
record. -/
def route (location : Location) : List String :=
  location.crate.dirName :: location.steps

/-- Whether the crate has a directory of its own and the discriminator can be
read from the file name. -/
structure IsFiled (location : Location) : Prop where
  slashFree : '/' ∉ location.crate.dirName.toList
  marked : ∃ mark, location.discriminator = .text mark ∧ IsMark mark

variable {location other : Location}

theorem steps_ne_nil (location : Location) : location.steps ≠ [] := by
  simp [steps]

/-- No file of a record lies in the store's directory itself. -/
theorem route_ne_singleton
    (location : Location)
    (name : String) :
    location.route ≠ [name] := by
  intro same
  exact location.steps_ne_nil (List.cons.inj same).2

theorem getLast_route (location : Location) :
    location.route.getLast? = some location.fileName := by
  rw [route, steps, ← List.cons_append, List.getLast?_concat]

/-- No name on the way to a file leads back. -/
theorem plain_route (location : Location) : ".." ∉ location.route := by
  rw [route, List.mem_cons, not_or]
  constructor
  · intro same
    exact location.crate.dirName_ne (by decide) same.symm
  · rw [steps, List.mem_append, List.mem_singleton, not_or]
    constructor
    · intro member
      obtain ⟨segment, _, written⟩ := List.mem_map.1 member
      have absent : '.' ∉ (FileName.encode segment).toList :=
        FileName.not_mem_encode (by decide) segment
      rw [written] at absent
      exact absent (by decide)
    · intro same
      have long :
          fileEnding.toList.length ≤ location.fileName.toList.length := by
        rw [toList_fileName, List.length_append]
        exact Nat.le_add_left _ _
      rw [← same] at long
      exact absurd long (by decide)

theorem parse_dirName
    (crate : CrateId)
    (slashFree : '/' ∉ crate.dirName.toList) :
    (DiskPath.parse crate.dirName) = ⟨"", [crate.dirName]⟩ := by
  have some : crate.dirName ≠ "" := crate.dirName_ne (by decide)
  have different : crate.dirName ≠ "." := crate.dirName_ne (by decide)
  simp [DiskPath.parse_of_not_mem slashFree, some, different]

/-- The path of the file of a record. -/
theorem relativePath_eq_route
    (filed : location.IsFiled) :
    relativePath location = ⟨"", location.route⟩ := by
  obtain ⟨mark, known, isMark⟩ := filed.marked
  rw [relativePath_eq (isMark.not_mem_marked known), DiskPath.child,
    parse_dirName _ filed.slashFree]
  rfl

/-- Files that are told apart lie under different paths. -/
theorem fileKey_eq_of_route_eq
    (filed : location.IsFiled)
    (alsoFiled : other.IsFiled)
    (same : location.route = other.route) :
    fileKey location = fileKey other := by
  unfold fileKey
  rw [relativePath_eq_route filed, relativePath_eq_route alsoFiled, same]

end Location

/-! ## Records that are stored alike -/

namespace Record.Same

variable {first second : Record}

theorem location_eq
    (same : first.Same second)
    (discriminator : String) :
    first.location discriminator = second.location discriminator := by
  have located := congrArg
    (fun record : Record => record.location discriminator) same.others
  exact located

theorem encode_eq
    (same : first.Same second)
    (sound : first.IsSound)
    (alsoSound : second.IsSound) :
    first.encode = second.encode :=
  congrArg Pack.pack (toValue_eq_of_same sound alsoSound same)

theorem discriminator_eq
    (same : first.Same second)
    (sound : first.IsSound)
    (alsoSound : second.IsSound) :
    first.discriminator = second.discriminator := by
  have signatures := congrArg signature same.others
  have declared : first.signature = second.signature := signatures
  unfold discriminator
  rw [declared, same.encode_eq sound alsoSound]

end Record.Same

namespace Store

variable
    {store : Store}
    {site : Site}

/-! ## Paths at the site of a store -/

theorem down_path
    (site : Site)
    (steps : List String) :
    (site.path []).down steps = site.path steps := by
  simp [Site.path]

theorem crateDirectory_eq
    (root : store.root = site.path [])
    {crate : CrateId}
    (slashFree : '/' ∉ crate.dirName.toList) :
    store.crateDirectory crate = site.path [crate.dirName] := by
  rw [crateDirectory, root,
    DiskPath.child_of_not_mem _ slashFree (crate.dirName_ne (by decide))
      (crate.dirName_ne (by decide)), down_path]

theorem indexFile_eq
    (root : store.root = site.path []) :
    store.indexFile = site.path ["store"] := by
  rw [indexFile, root,
    DiskPath.child_of_not_mem _ (by decide) (by decide) (by decide),
    down_path]

theorem freshIndexFile_eq
    (root : store.root = site.path []) :
    store.freshIndexFile = site.path ["store.tmp"] := by
  rw [freshIndexFile, root,
    DiskPath.child_of_not_mem _ (by decide) (by decide) (by decide),
    down_path]

theorem recordFile_eq
    (root : store.root = site.path [])
    {location : Location}
    (filed : location.IsFiled) :
    store.recordFile location = site.path location.route := by
  rw [recordFile, root, Location.relativePath_eq_route filed,
    ← down_path site location.route]
  rfl

/-! ## Records of a crate -/

/-- Records that differ at most in the order in which their links are filed
are placed alike. -/
theorem placeFrom_eq_of_same
    {records others : List Record}
    (same : List.Forall₂ Record.Same records others)
    (sound : ∀ record ∈ records, record.IsSound)
    (alsoSound : ∀ record ∈ others, record.IsSound)
    (places : Places) :
    placeFrom places records = placeFrom places others := by
  induction same generalizing places with
  | nil => rfl
  | @cons record other records others first _ inductionStep =>
      rw [List.forall_mem_cons] at sound alsoSound
      have located :
          places.locationFor record = places.locationFor other := by
        unfold Places.locationFor
        rw [first.discriminator_eq sound.1 alsoSound.1, first.location_eq "",
          first.location_eq other.discriminator]
      have added : places.add record = places.add other := by
        unfold Places.add
        rw [located, first.encode_eq sound.1 alsoSound.1]
      have told : places.entries record = places.entries other := by
        unfold Places.entries
        rw [located, first.location_eq ""]
      simp only [placeFrom, added, told,
        inductionStep sound.2 alsoSound.2 (places.add other)]

/-- Whether records can be stored for a crate: they are sound records of it,
and different ones have different discriminators. -/
structure AreProper (crate : CrateId) (records : List Record) : Prop where
  slashFree : '/' ∉ crate.dirName.toList
  sound : ∀ record ∈ records, record.IsSound
  crate : ∀ record ∈ records, record.crate = crate
  apart : ∀ first ∈ records, ∀ second ∈ records,
    first.discriminator = second.discriminator → first.Same second

variable
    {crate : CrateId}
    {records : List Record}

theorem AreProper.areTellable
    (proper : AreProper crate records) :
    AreTellable crate records where
  crate := proper.crate
  apart := by
    intro first member second alsoMember alike
    have same := proper.apart first member second alsoMember alike
    constructor
    · exact same.encode_eq (proper.sound first member)
        (proper.sound second alsoMember)
    · exact same.location_eq ""

/-- What is known of a place of such records. -/
structure Placed.IsOf (placed : Placed) (record : Record) : Prop where
  holds : placed.Holds record
  crate : placed.location.crate = record.crate
  location :
    placed.location = record.location placed.location.discriminator.written
  filed : placed.location.IsFiled
  sound : placed.location.IsSound

theorem AreProper.isOf
    (proper : AreProper crate records)
    {placed : Placed}
    {record : Record}
    (member : record ∈ records)
    (holds : placed.Holds record) :
    placed.IsOf record := by
  have sound := proper.sound record member
  obtain ⟨mark, located, isMark⟩ := holds.exists_location_eq
  have known : placed.location.discriminator = .text mark := by
    rw [located]
    rfl
  have inCrate := holds.crate_eq
  constructor
  · exact holds
  · exact inCrate
  · rw [known]
    exact located
  · refine ⟨?_, mark, known, isMark⟩
    rw [inCrate, proper.crate record member]
    exact proper.slashFree
  · rw [located]
    exact ⟨sound.crate, sound.path, sound.name, rfl⟩

theorem AreProper.exists_isOf
    (proper : AreProper crate records)
    {placed : Placed}
    (member : placed ∈ (place records).1) :
    ∃ record ∈ records, placed.IsOf record := by
  obtain ⟨record, inRecords, holds⟩ :=
    exists_holds_of_mem_place member
  exact ⟨record, inRecords, proper.isOf inRecords holds⟩

/-- Every place of records of a crate is of that crate. -/
theorem AreProper.crate_eq
    (proper : AreProper crate records)
    {placed : Placed}
    (member : placed ∈ (place records).1) :
    placed.location.crate = crate := by
  obtain ⟨record, inRecords, isOf⟩ := proper.exists_isOf member
  rw [isOf.crate, proper.crate record inRecords]

/-- Every place of records of a crate has a file of its own. -/
theorem AreProper.nodup_route
    (proper : AreProper crate records) :
    ((place records).1.map fun placed => placed.location.route).Nodup := by
  have keys := nodup_place proper.areTellable
  have placesNodup : (place records).1.Nodup := List.Nodup.of_map _ keys
  apply List.Nodup.map_on _ placesNodup
  intro placed member other alsoMember same
  obtain ⟨_, _, isOf⟩ := proper.exists_isOf member
  obtain ⟨_, _, alsoIsOf⟩ := proper.exists_isOf alsoMember
  exact List.inj_on_of_nodup_map keys member alsoMember
    (Location.fileKey_eq_of_route_eq isOf.filed alsoIsOf.filed same)

/-! ## Shelves -/

/-- The records that a store should hold, crate by crate. -/
abbrev Shelf := CrateId → List Record

namespace Shelf

/-- Whether every crate's records can be stored, also beside those of the
others, and are not too long. -/
structure IsSound (shelf : Shelf) : Prop where
  proper : ∀ crate, shelf crate ≠ [] → AreProper crate (shelf crate)
  apart : ∀ first second, shelf first ≠ [] → shelf second ≠ [] →
    first.dirName = second.dirName → first = second
  fitting : ∀ crate, ∀ record ∈ shelf crate, record.toValue.fits = true

/-- Whether a place is one of the records of some crate. -/
def Has (shelf : Shelf) (placed : Placed) : Prop :=
  ∃ crate, placed ∈ (place (shelf crate)).1

/-- Whether a list is one of all locations, each listed once. -/
structure IsListedBy (shelf : Shelf) (locations : List Location) : Prop where
  nodup : locations.Nodup
  mem_iff : ∀ location,
    location ∈ locations ↔
      ∃ placed, shelf.Has placed ∧ placed.location = location

variable
    {shelf : Shelf}
    {placed other : Placed}

theorem ne_nil_of_mem_place
    (member : placed ∈ (place records).1) :
    records ≠ [] := by
  rintro rfl
  cases member

/-- A place is one of the records of its crate. -/
theorem IsSound.mem_of_has
    (sound : shelf.IsSound)
    (has : shelf.Has placed) :
    placed ∈ (place (shelf placed.location.crate)).1 := by
  obtain ⟨crate, member⟩ := has
  rwa [(sound.proper crate (ne_nil_of_mem_place member)).crate_eq member]

theorem IsSound.exists_isOf
    (sound : shelf.IsSound)
    (has : shelf.Has placed) :
    ∃ record ∈ shelf placed.location.crate,
      placed.IsOf record ∧ record.IsSound ∧ record.toValue.fits = true := by
  have member := sound.mem_of_has has
  have proper := sound.proper _ (ne_nil_of_mem_place member)
  obtain ⟨record, inRecords, isOf⟩ := proper.exists_isOf member
  exact ⟨record, inRecords, isOf, proper.sound record inRecords,
    sound.fitting _ record inRecords⟩

theorem IsListedBy.perm
    {locations others : List Location}
    (listed : shelf.IsListedBy locations)
    (alsoListed : shelf.IsListedBy others) :
    locations.Perm others := by
  rw [List.perm_ext_iff_of_nodup listed.nodup alsoListed.nodup]
  intro location
  rw [listed.mem_iff, alsoListed.mem_iff]

theorem IsSound.isSound_of_mem
    (sound : shelf.IsSound)
    {locations : List Location}
    (listed : shelf.IsListedBy locations) :
    ∀ location ∈ locations, location.IsSound := by
  intro location member
  obtain ⟨placed, has, rfl⟩ := (listed.mem_iff location).1 member
  obtain ⟨_, _, isOf, _⟩ := sound.exists_isOf has
  exact isOf.sound

theorem IsSound.isTextual_of_mem
    (sound : shelf.IsSound)
    {locations : List Location}
    (listed : shelf.IsListedBy locations) :
    ∀ location ∈ locations, location.isTextual = true :=
  fun location member => (sound.isSound_of_mem listed location member).isTextual

/-! ## Replacing the records of a crate -/

theorem IsSound.update
    (sound : shelf.IsSound)
    (proper : AreProper crate records)
    (fitting : ∀ record ∈ records, record.toValue.fits = true)
    (apart : ∀ other, shelf other ≠ [] →
      other.dirName = crate.dirName → other = crate) :
    IsSound (Function.update shelf crate records) := by
  constructor
  · intro other some
    by_cases same : other = crate
    · subst same
      rw [Function.update_self]
      exact proper
    · rw [Function.update_of_ne same] at some ⊢
      exact sound.proper other some
  · intro first second someFirst someSecond same
    by_cases isFirst : first = crate
    · by_cases isSecond : second = crate
      · rw [isFirst, isSecond]
      · rw [Function.update_of_ne isSecond] at someSecond
        rw [isFirst] at same ⊢
        exact (apart second someSecond same.symm).symm
    · rw [Function.update_of_ne isFirst] at someFirst
      by_cases isSecond : second = crate
      · rw [isSecond] at same ⊢
        exact apart first someFirst same
      · rw [Function.update_of_ne isSecond] at someSecond
        exact sound.apart first second someFirst someSecond same
  · intro other
    by_cases same : other = crate
    · subst same
      rw [Function.update_self]
      exact fitting
    · rw [Function.update_of_ne same]
      exact sound.fitting other

/-- The places after the records of a crate are replaced. -/
theorem has_update_iff
    (sound : shelf.IsSound)
    (proper : AreProper crate records) :
    Has (Function.update shelf crate records) placed ↔
      placed ∈ (place records).1 ∨
        shelf.Has placed ∧ placed.location.crate ≠ crate := by
  constructor
  · rintro ⟨other, member⟩
    by_cases same : other = crate
    · subst same
      rw [Function.update_self] at member
      exact Or.inl member
    · rw [Function.update_of_ne same] at member
      have inOther :=
        (sound.proper other (ne_nil_of_mem_place member)).crate_eq member
      refine Or.inr ⟨⟨other, member⟩, ?_⟩
      rw [inOther]
      exact same
  · rintro (new | ⟨has, different⟩)
    · refine ⟨crate, ?_⟩
      rw [Function.update_self]
      exact new
    · refine ⟨placed.location.crate, ?_⟩
      rw [Function.update_of_ne different]
      exact sound.mem_of_has has

/-- The list of all locations after the records of a crate are replaced. -/
theorem IsSound.isListedBy_update
    (sound : shelf.IsSound)
    (proper : AreProper crate records)
    {previous : List Location}
    (nodup : previous.Nodup)
    (mem_iff : ∀ location, location.crate ≠ crate →
      (location ∈ previous ↔
        ∃ placed, shelf.Has placed ∧ placed.location = location)) :
    IsListedBy (Function.update shelf crate records)
      (previous.filter (fun location => location.crate ≠ crate) ++
        (place records).1.map (·.location)) := by
  have newCrate :
      ∀ location ∈ (place records).1.map (·.location),
        location.crate = crate := by
    intro location member
    obtain ⟨placed, inPlaces, rfl⟩ := List.mem_map.1 member
    exact proper.crate_eq inPlaces
  have newNodup : ((place records).1.map (·.location)).Nodup := by
    have routes := proper.nodup_route
    have split :
        (place records).1.map (fun placed => placed.location.route) =
          ((place records).1.map (·.location)).map Location.route := by
      rw [List.map_map]
      rfl
    rw [split] at routes
    exact List.Nodup.of_map _ routes
  constructor
  · rw [List.nodup_append]
    refine ⟨nodup.filter _, newNodup, ?_⟩
    rintro location kept _ new rfl
    have different := (List.mem_filter.1 kept).2
    simp [newCrate location new] at different
  · intro location
    rw [List.mem_append, List.mem_filter, List.mem_map]
    simp only [has_update_iff sound proper, decide_eq_true_eq]
    constructor
    · rintro (⟨kept, different⟩ | ⟨placed, new, rfl⟩)
      · obtain ⟨placed, has, rfl⟩ := (mem_iff location different).1 kept
        exact ⟨placed, Or.inr ⟨has, different⟩, rfl⟩
      · exact ⟨placed, Or.inl new, rfl⟩
    · rintro ⟨placed, new | ⟨has, different⟩, rfl⟩
      · exact Or.inr ⟨placed, new, rfl⟩
      · exact Or.inl ⟨(mem_iff _ different).2 ⟨placed, has, rfl⟩, different⟩

end Shelf

end Store

end CrateShelf
