import CrateShelf.Proofs.Store.Writing

/-!
# What a store holds after records are written again and again

The records of crates are written one after the other, those of a crate
perhaps many times, to a store that was not there before.

Main statement: what is on the disk in the end depends only on the records
that were written last for each crate; however the locations of records are
asked for, they are the same; and what is read from them are these records.
-/

namespace CrateShelf.Store

/-! ## Histories -/

/-- Crates with their records, in the order in which they are written. -/
abbrev History := List (CrateId × List Record)

namespace History

/-- The records of a crate that are written last. -/
def last? (history : History) (crate : CrateId) : Option (List Record) :=
  history.reverse.lookup crate

/-- What a store should hold in the end. -/
def shelf (history : History) : Shelf :=
  fun crate => (history.last? crate).getD []

/-- Whether the records of every crate can be stored and no two crates share
a directory. -/
structure IsProper (history : History) : Prop where
  proper : ∀ written ∈ history, AreProper written.1 written.2
  apart : ∀ first ∈ history, ∀ second ∈ history,
    first.1.dirName = second.1.dirName → first.1 = second.1

/-- Whether the same records are written last for each crate, up to the order
in which links are filed. -/
def Agrees (history others : History) : Prop :=
  ∀ crate,
    Option.Rel (List.Forall₂ Record.Same)
      (history.last? crate) (others.last? crate)

variable
    {history others : History}
    {crate : CrateId}
    {records : List Record}

theorem last?_concat
    (history : History)
    (crate other : CrateId)
    (records : List Record) :
    last? (history ++ [(crate, records)]) other =
      if other = crate then some records else history.last? other := by
  unfold last?
  rw [List.reverse_append, List.reverse_singleton, List.singleton_append,
    List.lookup_cons]
  by_cases same : other = crate
  · simp [same]
  · have different : (other == crate) = false := beq_eq_false_iff_ne.2 same
    rw [different, if_neg same]

@[simp]
theorem shelf_nil : shelf [] = fun _ => [] := rfl

/-- What is written takes the place of what the crate had. -/
theorem shelf_concat
    (history : History)
    (crate : CrateId)
    (records : List Record) :
    shelf (history ++ [(crate, records)]) =
      Function.update history.shelf crate records := by
  funext other
  unfold shelf
  rw [last?_concat, Function.update_apply]
  split
  · rfl
  · rfl

theorem mem_of_last?
    (last : history.last? crate = some records) :
    (crate, records) ∈ history := by
  obtain ⟨before, after, whole, _⟩ := List.lookup_eq_some_iff.1 last
  rw [← List.mem_reverse, whole]
  simp

theorem shelf_eq
    (last : history.last? crate = some records) :
    history.shelf crate = records := by
  rw [shelf, last, Option.getD_some]

theorem last?_of_shelf
    (some : history.shelf crate ≠ []) :
    history.last? crate = .some (history.shelf crate) := by
  unfold shelf at some ⊢
  cases last : history.last? crate with
  | none =>
      rw [last] at some
      exact absurd rfl some
  | some records => rfl

/-- What is written last can be stored. -/
theorem IsProper.shelf
    (proper : history.IsProper)
    {crate : CrateId}
    (some : history.shelf crate ≠ []) :
    AreProper crate (history.shelf crate) :=
  proper.proper _ (mem_of_last? (last?_of_shelf some))

theorem exists_last?
    (some : history ≠ []) :
    ∃ crate records, history.last? crate = .some records := by
  cases history using List.reverseRecOn with
  | nil => exact absurd rfl some
  | append_singleton front written _ =>
      refine ⟨written.1, written.2, ?_⟩
      rw [last?_concat front written.1 written.1 written.2, if_pos rfl]

/-- Nothing is written in both or neither of histories that agree. -/
theorem Agrees.eq_nil_iff
    (agrees : history.Agrees others) :
    history = [] ↔ others = [] := by
  constructor
  · rintro rfl
    by_contra some
    obtain ⟨crate, records, last⟩ := exists_last? some
    have related := agrees crate
    rw [last] at related
    cases related
  · rintro rfl
    by_contra some
    obtain ⟨crate, records, last⟩ := exists_last? some
    have related := agrees crate
    rw [last] at related
    cases related

/-- Histories that agree tell of the same places. -/
theorem Agrees.has_iff
    (agrees : history.Agrees others)
    (proper : history.IsProper)
    (alsoProper : others.IsProper)
    (placed : Placed) :
    history.shelf.Has placed ↔ others.shelf.Has placed := by
  have same :
      ∀ crate, place (history.shelf crate) = place (others.shelf crate) := by
    intro crate
    have related := agrees crate
    generalize last : history.last? crate = written at related
    generalize alsoLast : others.last? crate = alsoWritten at related
    cases related with
    | some alike =>
        have sound := proper.proper _ (mem_of_last? last)
        have alsoSound := alsoProper.proper _ (mem_of_last? alsoLast)
        rw [shelf_eq last, shelf_eq alsoLast, place, place,
          placeFrom_eq_of_same alike sound.sound alsoSound.sound]
    | none => rw [History.shelf, History.shelf, last, alsoLast]
  unfold Shelf.Has
  simp only [same]

end History

/-! ## Runs -/

section

variable [Depths]

/-- Writes the records of crates one after the other. -/
def replay (store : Store) (history : History) : Job StoreError Unit :=
  history.forM fun written => do
    let _ ← store.writeCrate written.1 written.2

/-- Whether nothing is where a store has its directory, and nothing is
remembered of it. -/
structure IsVacant (store : Store) (world : World) : Prop where
  site : ∃ site : Site,
    site.IsFree world.files ∧ store.root = site.path []
  unlisted : world.files.isFile store.indexFile = .ok false
  absent : world.files.isDirectory store.root = .ok false
  unknown : world.known? = none

omit [Depths] in
/-- A store is vacant if the path to it does not lead back and nothing is at
its end. -/
theorem isVacant_of_plain
    {store : Store}
    {world : World}
    {base : Address}
    (sound : world.files.IsSound)
    (anchored :
      world.files.find ⟨store.registry.root, []⟩ = .ok (base, .directory))
    (plain : ".." ∉ store.registry.parts)
    (free :
      world.files.get? (base ++ (store.registry.parts ++ ["doc"])) = none)
    (unlisted : world.files.isFile store.indexFile = .ok false)
    (absent : world.files.isDirectory store.root = .ok false)
    (unknown : world.known? = none) :
    store.IsVacant world := by
  refine ⟨⟨⟨⟨store.registry.root, []⟩, base,
    store.registry.parts ++ ["doc"]⟩, ?_, ?_⟩, unlisted, absent, unknown⟩
  · refine ⟨sound, anchored, ?_, free⟩
    rw [List.mem_append, not_or]
    exact ⟨plain, by decide⟩
  · rw [root, docRoot,
      DiskPath.child_of_not_mem _ (by decide) (by decide) (by decide)]
    simp [Site.path, DiskPath.down]

/-- What there is in the course of a history: the world as it was, or a disk
that shows what has been written. -/
def Reached
    (site : Site)
    (start : World)
    (history : History)
    (world : World) : Prop :=
  history = [] ∧ world = start ∨
    history ≠ [] ∧
      ∃ locations, Settled site start.files history.shelf locations world

variable
    {store : Store}
    {site : Site}
    {start world : World}
    {history : History}

omit [Depths] in
/-- Nothing is shown where there is nothing. -/
theorem shows_of_isFree
    {files : FileTree}
    (free : site.IsFree files) :
    Shows site files files (fun _ => []) none := by
  constructor
  · exact free.frame
  · exact free.content?_eq_none ["store"]
  · intro steps content _
    rw [free.content?_eq_none]
    simp only [reduceCtorEq, false_iff, not_exists, not_and]
    rintro placed ⟨crate, member⟩
    cases member

omit [Depths] in
theorem Reached.isReady
    (reached : Reached site start history world)
    (free : site.IsFree start.files) :
    IsReady site start.files history.shelf world := by
  rcases reached with ⟨rfl, rfl⟩ | ⟨_, settled⟩
  · exact Or.inl ⟨rfl, shows_of_isFree free⟩
  · exact Or.inr settled

/-- In the end the disk shows what was written, or there was an error of the
disk or of what cannot be packed. -/
theorem ends_replay
    (free : site.IsFree start.files)
    (root : store.root = site.path [])
    (proper : history.IsProper) :
    (store.replay history).Ends start
      (fun _ later => Reached site start history later)
      (·.isExternal = true) := by
  apply Job.ends_forM (Reached site start)
  · rintro before ⟨crate, records⟩ after world whole reached
    have earlier : ∀ written ∈ before, written ∈ history := by
      intro written member
      rw [← whole]
      exact List.mem_append_left _ member
    have next : (crate, records) ∈ history := by
      rw [← whole]
      simp
    have apart :
        ∀ other, History.shelf before other ≠ [] →
          other.dirName = crate.dirName → other = crate := by
      intro other some same
      have last := History.last?_of_shelf some
      exact
        proper.apart _ (earlier _ (History.mem_of_last? last)) _ next same
    apply
      (ends_writeCrate free root (proper.proper _ next)
        (reached.isReady free) apart).bind
    rintro _ later ⟨locations, settled⟩
    refine Or.inr ⟨by simp, locations, ?_⟩
    rw [History.shelf_concat]
    exact settled
  · exact Or.inl ⟨rfl, rfl⟩

/-! ## What there is in the end -/

/-- Whether the list of all records and the files in the store's directory
are the same on two disks. -/
structure SameFiles (store : Store) (first second : FileTree) : Prop where
  index : ∀ content,
    first.read store.indexFile = .ok content ↔
      second.read store.indexFile = .ok content
  files : ∀ path content,
    (path, Entry.file content) ∈ first.descend store.root ↔
      (path, Entry.file content) ∈ second.descend store.root

/-- Whether the locations are remembered, read by a store that remembers
none, and found. -/
structure Tells
    (store : Store)
    (locations : List Location)
    (world : World) : Prop where
  remembered : (store.allLocations.on world).1 = .ok locations
  afresh :
    (store.allLocations.on { world with known? := none }).1 = .ok locations
  found : ((scan store.root).on world).1 = .ok locations

/-- Whether a record is read from a location, up to the order in which its
links are filed. -/
def Loads
    (store : Store)
    (world : World)
    (location : Location)
    (record : Record) : Prop :=
  ∃ loaded,
    ((store.load location).on world).1 = .ok loaded ∧ loaded.Same record

/-- Whether locations are those of the records that were written last, each
listed once, and what is read from them are these records. -/
structure Restores
    (store : Store)
    (history : History)
    (locations : List Location)
    (world : World) : Prop where
  nodup : locations.Nodup
  loads : ∀ location ∈ locations,
    ∃ records, history.last? location.crate = some records ∧
      ∃ record ∈ records,
        ⟨location, record.encode⟩ ∈ (place records).1 ∧
          store.Loads world location record
  listed : ∀ crate records, history.last? crate = some records →
    ∀ placed ∈ (place records).1, placed.location ∈ locations
  complete : ∀ crate records, history.last? crate = some records →
    ∀ record ∈ records, ∃ location ∈ locations,
      location.crate = crate ∧ store.Loads world location record

variable
    {locations : List Location}
    {shelf : Shelf}

theorem load_of_read
    {location : Location}
    {bytes : Bytes}
    {record : Record}
    (hasFile : location.hasFile = true)
    (read : world.files.read (store.recordFile location) = .ok bytes)
    (decoded : Record.decode bytes = .ok record) :
    ((store.load location).on world).1 = .ok record := by
  unfold load
  simp only [hasFile, if_true, Job.on_bind, Job.on_ask, isFile_of_read read,
    Except.mapError, Job.on_pure, read, decoded]

/-! ## What a settled disk says -/

omit [Depths] in
theorem Settled.isDirectory
    (settled : Settled site start.files shelf locations world) :
    world.files.get? site.home = some .directory := by
  have present := Site.content?_eq_some_iff.1 settled.shows.index
  exact settled.shows.frame.sound.directory_of_append present (by simp)

omit [Depths] in
theorem Settled.read_indexFile
    (settled : Settled site start.files shelf locations world)
    (free : site.IsFree start.files)
    (root : store.root = site.path [])
    {content : Bytes} :
    world.files.read store.indexFile = .ok content ↔
      Record.encodeIndex locations = content := by
  rw [indexFile_eq root,
    settled.shows.frame.read_eq_ok_iff free (by decide),
    settled.shows.index, Option.some_inj]

omit [Depths] in
/-- Disks that show the same places have the same files. -/
theorem Settled.sameFiles
    {other : Site}
    {first second : World}
    {others : List Location}
    {otherShelf : Shelf}
    (settled : Settled site start.files shelf locations world)
    (free : site.IsFree start.files)
    (root : store.root = site.path [])
    (alsoSettled : Settled other first.files otherShelf others second)
    (alsoFree : other.IsFree first.files)
    (alsoRoot : store.root = other.path [])
    (same : ∀ placed, shelf.Has placed ↔ otherShelf.Has placed) :
    store.SameFiles world.files second.files := by
  have perm : locations.Perm others := by
    apply settled.listed.perm
    constructor
    · exact alsoSettled.listed.nodup
    · intro location
      simp only [alsoSettled.listed.mem_iff, same]
  have index :
      Record.encodeIndex locations = Record.encodeIndex others :=
    congrArg Pack.pack (Record.indexValue_eq_of_perm
      (alsoSettled.sound.isTextual_of_mem alsoSettled.listed) perm)
  constructor
  · intro content
    rw [settled.read_indexFile free root,
      alsoSettled.read_indexFile alsoFree alsoRoot, index]
  · intro path content
    rw [settled.shows.mem_descend free root settled.sound
        settled.isDirectory,
      alsoSettled.shows.mem_descend alsoFree alsoRoot alsoSettled.sound
        alsoSettled.isDirectory, index]
    simp only [same]

/-- However they are asked for, the locations are the same. -/
theorem Settled.tells
    (settled : Settled site start.files shelf locations world)
    (free : site.IsFree start.files)
    (root : store.root = site.path []) :
    store.Tells (Location.sort locations) world := by
  have sound := settled.sound.isSound_of_mem settled.listed
  constructor
  · unfold allLocations
    rw [Job.on_bind_ok (Job.on_get world), settled.known]
    rfl
  · rw [allLocations_of_unknown store rfl]
    exact settled.shows.readable_of_index free root sound settled.fits
  · rw [scan_result, root]
    exact settled.shows.survey_eq free settled.sound settled.isDirectory
      settled.listed

/-- A record is read from its place. -/
theorem Settled.loads
    (settled : Settled site start.files shelf locations world)
    (free : site.IsFree start.files)
    (root : store.root = site.path [])
    {placed : Placed}
    (has : shelf.Has placed)
    {record : Record}
    (member : record ∈ shelf placed.location.crate)
    (holds : placed.Holds record) :
    store.Loads world placed.location record := by
  have some : shelf placed.location.crate ≠ [] := List.ne_nil_of_mem member
  have proper := settled.sound.proper _ some
  have isOf := proper.isOf member holds
  have sound := proper.sound record member
  have fits := settled.sound.fitting _ record member
  have hasFile : placed.location.hasFile = true := by
    have whole :=
      Pack.Value.isText_of_isWholeText isOf.sound.discriminator
    simp [Location.hasFile, whole,
      Pack.Value.isText_of_isWholeText isOf.sound.name]
  refine ⟨{ record with links := Record.sortLinks record.links }, ?_,
    Record.same_sortLinks sound⟩
  apply load_of_read hasFile
  · rw [recordFile_eq root isOf.filed]
    exact settled.shows.read_route free has
  · rw [holds.1]
    exact Record.decode_encode_eq sound fits

/-- The locations are those of what was written last. -/
theorem Settled.restores
    (settled : Settled site start.files history.shelf locations world)
    (free : site.IsFree start.files)
    (root : store.root = site.path [])
    (proper : history.IsProper) :
    store.Restores history (Location.sort locations) world := by
  have listed :
      ∀ crate records, history.last? crate = some records →
        ∀ placed ∈ (place records).1,
          placed.location ∈ Location.sort locations := by
    intro crate records last placed inPlaces
    rw [(Location.sort_perm locations).mem_iff, settled.listed.mem_iff]
    refine ⟨placed, ⟨crate, ?_⟩, rfl⟩
    rwa [History.shelf_eq last]
  constructor
  · exact (Location.sort_perm locations).nodup_iff.2 settled.listed.nodup
  · intro location member
    rw [(Location.sort_perm locations).mem_iff,
      settled.listed.mem_iff] at member
    obtain ⟨⟨location, content⟩, has, rfl⟩ := member
    have inPlaces := settled.sound.mem_of_has has
    have some := Shelf.ne_nil_of_mem_place inPlaces
    obtain ⟨record, inRecords, holds⟩ :=
      exists_holds_of_mem_place inPlaces
    obtain rfl : content = record.encode := holds.1
    exact ⟨_, History.last?_of_shelf some, record, inRecords, inPlaces,
      settled.loads free root has inRecords holds⟩
  · exact listed
  · intro crate records last record inRecords
    have areProper := proper.proper _ (History.mem_of_last? last)
    obtain ⟨placed, inPlaces, holds⟩ :=
      exists_mem_place areProper.areTellable inRecords
    have inCrate := areProper.crate_eq inPlaces
    have shelved := History.shelf_eq last
    refine ⟨placed.location, listed crate records last placed inPlaces,
      inCrate, ?_⟩
    apply settled.loads free root _ _ holds
    · refine ⟨crate, ?_⟩
      rwa [shelved]
    · rw [inCrate, shelved]
      exact inRecords

/-! ## What a vacant disk says -/

omit [Depths] in
theorem IsVacant.sameFiles
    (vacant : store.IsVacant start)
    (alsoVacant : store.IsVacant world) :
    store.SameFiles start.files world.files := by
  have unread :
      ∀ {world : World}, store.IsVacant world →
        ∀ content, world.files.read store.indexFile ≠ .ok content := by
    intro world vacant content read
    have isFile := isFile_of_read read
    rw [vacant.unlisted] at isFile
    cases isFile
  have empty :
      ∀ {world : World}, store.IsVacant world →
        ∀ known, known ∉ world.files.descend store.root := by
    intro world vacant known member
    have isDirectory := FileTree.isDirectory_of_mem_descend member
    rw [vacant.absent] at isDirectory
    cases isDirectory
  constructor
  · intro content
    simp only [unread vacant, unread alsoVacant]
  · intro path content
    simp only [empty vacant, empty alsoVacant]

theorem IsVacant.tells
    (vacant : store.IsVacant start) :
    store.Tells [] start := by
  have found : survey start.files store.root = .ok [] := by
    simp only [survey, vacant.absent, Except.mapError, ok_bind,
      Bool.false_eq_true, if_false, pure_eq_ok]
  have read : store.readable start.files = .ok [] := by
    simp only [readable, listed, vacant.unlisted, found, Except.mapError,
      ok_bind, Bool.false_eq_true, if_false, pure_eq_ok]
  constructor
  · rw [allLocations_of_unknown store vacant.unknown]
    exact read
  · rw [allLocations_of_unknown store rfl]
    exact read
  · rw [scan_result]
    exact found

theorem restores_nil (store : Store) (world : World) :
    store.Restores [] [] world := by
  constructor
  · exact List.nodup_nil
  · simp
  · simp [History.last?]
  · simp [History.last?]

/-! ## Main result -/

/-- Whether what is on the disk depends only on the records that were written
last for each crate, and is what was written, however it is asked for. -/
structure Preserves
    (store : Store)
    (history : History)
    (later : World) : Prop where
  determined : ∀ others, History.IsProper others → history.Agrees others →
    ∀ start final, store.IsVacant start →
      (store.replay others).on start = (.ok (), final) →
        store.SameFiles later.files final.files
  restored : ∃ locations,
    store.Tells locations later ∧ store.Restores history locations later

/--
Records that can be stored are written to a vacant store, crate by crate, in
any order and as often as one likes.  Unless there is an error of the disk or
of what cannot be packed, the list of all records and the files in the store's
directory depend only on what was written last for each crate; the locations
that are remembered, those that are read and those that are found are the
same; and the records that were written last are read from them.
-/
theorem ends_replay_preserves
    {store : Store}
    {start : World}
    (vacant : store.IsVacant start)
    {history : History}
    (proper : history.IsProper) :
    (store.replay history).Ends start
      (fun _ later => store.Preserves history later)
      (·.isExternal = true) := by
  obtain ⟨site, free, root⟩ := vacant.site
  apply (ends_replay free root proper).mono
  intro _ later reached
  constructor
  · intro others alsoProper agrees other final alsoVacant run
    obtain ⟨otherSite, alsoFree, alsoRoot⟩ := alsoVacant.site
    have alsoReached : Reached otherSite other others final := by
      have ends := ends_replay alsoFree alsoRoot alsoProper
      unfold Job.Ends at ends
      rwa [run] at ends
    rcases reached with ⟨none, rfl⟩ | ⟨some, locations, settled⟩
    · rcases alsoReached with ⟨_, rfl⟩ | ⟨alsoSome, _⟩
      · exact vacant.sameFiles alsoVacant
      · exact absurd (agrees.eq_nil_iff.1 none) alsoSome
    · rcases alsoReached with ⟨alsoNone, _⟩ | ⟨_, others, alsoSettled⟩
      · exact absurd (agrees.eq_nil_iff.2 alsoNone) some
      · exact settled.sameFiles free root alsoSettled alsoFree alsoRoot
          (agrees.has_iff proper alsoProper)
  · rcases reached with ⟨rfl, rfl⟩ | ⟨_, locations, settled⟩
    · exact ⟨[], vacant.tells, restores_nil store later⟩
    · exact ⟨_, settled.tells free root,
        settled.restores free root proper⟩

end

/-- A store on an empty disk. -/
def sampleStore : Store := ⟨⟨"", ["reg"]⟩⟩

/-- A struct with links of one kind. -/
def sampleRecord : Record :=
  { Record.samplePoint with links := Record.samplePoint.links.take 1 }

/-- A crate written twice, and one without records in between. -/
def sampleHistory : History :=
  [(sampleRecord.crate, [sampleRecord]), (⟨"lines", "2.0.0"⟩, []),
    (sampleRecord.crate, [sampleRecord])]

theorem isVacant_sampleStore : sampleStore.IsVacant {} := by
  apply isVacant_of_plain
  · constructor
    · simp
    · simp
    · intro address name entry standing
      simp [FileTree.get?] at standing
  · rfl
  · decide
  · rfl
  · rfl
  · rfl
  · rfl

theorem isProper_sampleHistory : sampleHistory.IsProper := by
  have sound : sampleRecord.IsSound := by
    refine { Record.isSound_samplePoint with links := ?_ }
    decide
  have proper : AreProper sampleRecord.crate [sampleRecord] := by
    constructor
    · decide
    · simpa using sound
    · simp
    · simp only [List.mem_singleton, forall_eq]
      exact fun _ => ⟨rfl, fun _ => rfl⟩
  constructor
  · simp only [sampleHistory, List.forall_mem_cons]
    refine ⟨proper, ?_, proper, by simp⟩
    constructor
    · decide
    all_goals simp
  · decide

attribute [local instance] Depths.usual in
theorem preserves_sampleHistory :
    sampleStore.IsVacant {} ∧
      sampleHistory.IsProper ∧
      ∃ later,
        (sampleStore.replay sampleHistory).on {} = (.ok (), later) ∧
          sampleStore.Preserves sampleHistory later := by
  refine ⟨isVacant_sampleStore, isProper_sampleHistory, ?_⟩
  have ends :=
    ends_replay_preserves isVacant_sampleStore isProper_sampleHistory
  have done :
      ((sampleStore.replay sampleHistory).on {}).1.isOk = true := by
    decide +kernel
  unfold Job.Ends at ends
  rcases ended : (sampleStore.replay sampleHistory).on {} with
    ⟨error | value, later⟩
  · rw [ended] at done
    cases done
  · rw [ended] at ends
    exact ⟨later, rfl, ends⟩

end CrateShelf.Store
