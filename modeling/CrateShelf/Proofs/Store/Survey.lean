import CrateShelf.Proofs.Store.Recovery
import CrateShelf.Proofs.Store.Shelf

/-!
# Reading what a store holds

A disk shows a shelf if the files at the store's site are those of its
records, beside the list of all records.

Main statements: the search for records finds the locations of all records,
the list of all records says the same, and every record is read from its
file.
-/

namespace CrateShelf.Store

/-- Whether the files at a site are those of the records of a shelf, beside
the list of all records. -/
structure Shows
    (site : Site)
    (start files : FileTree)
    (shelf : Shelf)
    (index? : Option Bytes) : Prop where
  frame : site.Frame start files
  index : site.content? files ["store"] = index?
  others : ∀ steps content,
    steps ≠ ["store"] →
      (site.content? files steps = some content ↔
        ∃ placed,
          shelf.Has placed ∧
            placed.location.route = steps ∧
            placed.content = content)

variable
    {store : Store}
    {site : Site}
    {start files : FileTree}
    {shelf : Shelf}
    {index? : Option Bytes}
    {placed : Placed}
    {location : Location}

/-! ## The files of records -/

variable [Depths]

/-- What the file of a place is read as. -/
theorem Shelf.IsSound.exists_decode
    (sound : shelf.IsSound)
    (has : shelf.Has placed) :
    ∃ record ∈ shelf placed.location.crate,
      ∃ decoded,
        Record.decode placed.content = .ok decoded ∧
          decoded.Same record ∧
          placed.IsOf record ∧
          decoded.location placed.location.discriminator.written =
            placed.location := by
  obtain ⟨record, member, isOf, recordSound, fits⟩ := sound.exists_isOf has
  refine ⟨record, member,
    { record with links := Record.sortLinks record.links }, ?_, ?_, isOf, ?_⟩
  · rw [isOf.holds.1]
    exact Record.decode_encode_eq recordSound fits
  · exact Record.same_sortLinks recordSound
  · exact isOf.location.symm

omit [Depths] in
theorem Shows.content?_route
    (shows : Shows site start files shelf index?)
    (has : shelf.Has placed) :
    site.content? files placed.location.route = some placed.content :=
  (shows.others _ _ (placed.location.route_ne_singleton "store")).2
    ⟨placed, has, rfl, rfl⟩

omit [Depths] in
theorem Shows.read_route
    (shows : Shows site start files shelf index?)
    (free : site.IsFree start)
    (has : shelf.Has placed) :
    files.read (site.path placed.location.route) = .ok placed.content :=
  (shows.frame.read_eq_ok_iff free placed.location.plain_route).2
    (shows.content?_route has)

omit [Depths] in
theorem name_path_route
    (site : Site)
    (location : Location) :
    (site.path location.route).name = location.fileName := by
  simp only [DiskPath.name, Site.path, DiskPath.down]
  rw [← List.append_assoc, List.getLast?_append, location.getLast_route]
  rfl

theorem Shows.readIn?_route
    (shows : Shows site start files shelf index?)
    (free : site.IsFree start)
    (sound : shelf.IsSound)
    (has : shelf.Has placed) :
    readIn? files (site.path placed.location.route) =
      some (Record.decode placed.content) := by
  obtain ⟨_, _, isOf, _⟩ := sound.exists_isOf has
  obtain ⟨mark, known, _⟩ := isOf.filed.marked
  unfold readIn?
  rw [name_path_route, Location.nameOf_fileName known,
    shows.read_route free has]

/-- The location is read from the file of a place. -/
theorem Shows.locationIn?_route
    (shows : Shows site start files shelf index?)
    (free : site.IsFree start)
    (sound : shelf.IsSound)
    (has : shelf.Has placed) :
    locationIn? files (site.path placed.location.route) =
      some placed.location := by
  obtain ⟨_, _, decoded, read, _, isOf, located⟩ := sound.exists_decode has
  obtain ⟨mark, known, isMark⟩ := isOf.filed.marked
  unfold locationIn?
  rw [shows.readIn?_route free sound has, read, name_path_route,
    Location.discriminatorOf_fileName known isMark.not_mem_tilde]
  rw [known] at located
  exact congrArg some located

/-! ## The search for records -/

omit [Depths] in
theorem mem_recordFiles
    {file directory : DiskPath} :
    file ∈ recordFiles files directory ↔
      (∃ entry, (file, entry) ∈ files.descend directory) ∧
        file.name.endsWith Location.fileEnding = true := by
  unfold recordFiles DiskPath.sort
  rw [(List.mergeSort_perm _ _).mem_iff, List.mem_filter, List.mem_map]
  simp only [Prod.exists, exists_and_right, exists_eq_right]

/-- Only files of records are read among those of their ending. -/
theorem Shows.exists_of_readIn?
    (shows : Shows site start files shelf index?)
    (free : site.IsFree start)
    (isDirectory : files.get? site.home = some .directory)
    {file : DiskPath}
    (member : file ∈ recordFiles files (site.path []))
    {result : Except Record.DecodeError Record}
    (found : readIn? files file = some result) :
    ∃ placed,
      shelf.Has placed ∧ site.path placed.location.route = file := by
  obtain ⟨⟨entry, listed⟩, ending⟩ := mem_recordFiles.1 member
  obtain ⟨steps, _, rfl, standing⟩ :=
    (shows.frame.mem_descend free isDirectory).1 listed
  have notIndex : steps ≠ ["store"] := by
    rintro rfl
    have name : (site.path ["store"]).name = "store" := by
      simp [DiskPath.name, Site.path, DiskPath.down]
    rw [name] at ending
    exact absurd ending (by decide +kernel)
  unfold readIn? at found
  split at found
  · rename_i bytes _ read
    have present :=
      (shows.frame.read_eq_ok_iff free
        (shows.frame.plain_of_standing standing)).1 read
    obtain ⟨placed, has, route, _⟩ :=
      (shows.others steps _ notIndex).1 present
    exact ⟨placed, has, congrArg site.path route⟩
  · cases found

/-- No file of a record is strange. -/
theorem Shows.not_isStrange
    (shows : Shows site start files shelf index?)
    (free : site.IsFree start)
    (sound : shelf.IsSound)
    (isDirectory : files.get? site.home = some .directory) :
    ∀ file ∈ recordFiles files (site.path []), ¬ IsStrange files file := by
  rintro file member ⟨result, found, error, rfl, unforeseen⟩
  obtain ⟨placed, has, rfl⟩ :=
    shows.exists_of_readIn? free isDirectory member found
  obtain ⟨_, _, decoded, read, _⟩ := sound.exists_decode has
  rw [shows.readIn?_route free sound has, read] at found
  cases found

/-- The location that is read from a file is that of the record whose file it
is. -/
theorem Shows.exists_of_locationIn?
    (shows : Shows site start files shelf index?)
    (free : site.IsFree start)
    (sound : shelf.IsSound)
    (isDirectory : files.get? site.home = some .directory)
    {file : DiskPath}
    (member : file ∈ recordFiles files (site.path []))
    {location : Location}
    (found : locationIn? files file = some location) :
    ∃ placed,
      shelf.Has placed ∧
        placed.location = location ∧
          site.path placed.location.route = file := by
  have known : ∃ result, readIn? files file = some result := by
    cases read : readIn? files file with
    | none => simp [locationIn?, read] at found
    | some result => exact ⟨result, rfl⟩
  obtain ⟨result, read⟩ := known
  obtain ⟨placed, has, rfl⟩ :=
    shows.exists_of_readIn? free isDirectory member read
  rw [shows.locationIn?_route free sound has] at found
  exact ⟨placed, has, Option.some.inj found, rfl⟩

/-- The search for records finds every location once. -/
theorem Shows.isListedBy_locationsBelow
    (shows : Shows site start files shelf index?)
    (free : site.IsFree start)
    (sound : shelf.IsSound)
    (isDirectory : files.get? site.home = some .directory) :
    shelf.IsListedBy (locationsBelow files (site.path [])) := by
  constructor
  · have nodup : (recordFiles files (site.path [])).Nodup := by
      unfold recordFiles DiskPath.sort
      rw [(List.mergeSort_perm _ _).nodup_iff]
      exact (shows.frame.nodup_descend free isDirectory).filter _
    unfold locationsBelow List.Nodup
    rw [List.pairwise_filterMap]
    apply List.Pairwise.imp_of_mem _ nodup
    rintro file other member alsoMember different location found _
      alsoFound rfl
    obtain ⟨placed, has, located, rfl⟩ :=
      shows.exists_of_locationIn? free sound isDirectory member found
    obtain ⟨known, alsoHas, alsoLocated, rfl⟩ :=
      shows.exists_of_locationIn? free sound isDirectory alsoMember alsoFound
    rw [located, alsoLocated] at different
    exact different rfl
  · intro location
    unfold locationsBelow
    rw [List.mem_filterMap]
    constructor
    · rintro ⟨file, member, found⟩
      obtain ⟨placed, has, located, _⟩ :=
        shows.exists_of_locationIn? free sound isDirectory member found
      exact ⟨placed, has, located⟩
    · rintro ⟨placed, has, rfl⟩
      refine ⟨site.path placed.location.route, ?_,
        shows.locationIn?_route free sound has⟩
      rw [mem_recordFiles, name_path_route]
      refine ⟨⟨.file placed.content, ?_⟩, placed.location.endsWith_fileName⟩
      rw [shows.frame.mem_descend free isDirectory]
      refine ⟨placed.location.route, by simp [Location.route], rfl, ?_⟩
      exact Site.content?_eq_some_iff.1 (shows.content?_route has)

/-- The search for records finds all locations, in order. -/
theorem Shows.survey_eq
    (shows : Shows site start files shelf index?)
    (free : site.IsFree start)
    (sound : shelf.IsSound)
    (isDirectory : files.get? site.home = some .directory)
    {locations : List Location}
    (listed : shelf.IsListedBy locations) :
    survey files (site.path []) = .ok (Location.sort locations) := by
  have found := shows.isListedBy_locationsBelow free sound isDirectory
  have there : files.isDirectory (site.path []) = .ok true := by
    rw [shows.frame.isDirectory_eq_true_iff free (by simp), List.append_nil]
    exact isDirectory
  rw [survey_of_usual there (shows.not_isStrange free sound isDirectory),
    if_pos (Location.canSort_of_isTextual (sound.isTextual_of_mem found)),
    Location.sort_eq_of_perm (sound.isTextual_of_mem listed)
      (found.perm listed)]

omit [Depths] in
/-- Where the store's directory is missing, there are no records. -/
theorem Shows.isListedBy_nil
    (shows : Shows site start files shelf index?)
    (missing : files.get? site.home ≠ some .directory) :
    shelf.IsListedBy [] := by
  constructor
  · exact List.nodup_nil
  · intro location
    simp only [List.not_mem_nil, false_iff, not_exists, not_and]
    intro placed has _
    have present :=
      Site.content?_eq_some_iff.1 (shows.content?_route has)
    apply missing
    exact shows.frame.sound.directory_of_append present
      (by simp [Location.route])

omit [Depths] in
/-- The files in the store's directory are those of the records and the list
of all records. -/
theorem Shows.mem_descend
    (shows : Shows site start files shelf index?)
    (free : site.IsFree start)
    (root : store.root = site.path [])
    (sound : shelf.IsSound)
    (isDirectory : files.get? site.home = some .directory)
    {path : DiskPath}
    {content : Bytes} :
    (path, Entry.file content) ∈ files.descend store.root ↔
      store.indexFile = path ∧ index? = some content ∨
        ∃ placed,
          shelf.Has placed ∧
            store.recordFile placed.location = path ∧
            placed.content = content := by
  have spelled :
      ∀ placed, shelf.Has placed →
        store.recordFile placed.location =
          site.path placed.location.route := by
    intro placed has
    obtain ⟨_, _, isOf, _⟩ := sound.exists_isOf has
    exact recordFile_eq root isOf.filed
  rw [root, shows.frame.mem_descend free isDirectory, indexFile_eq root]
  simp only [← Site.content?_eq_some_iff]
  constructor
  · rintro ⟨steps, _, rfl, present⟩
    by_cases isIndex : steps = ["store"]
    · subst isIndex
      rw [shows.index] at present
      exact Or.inl ⟨rfl, present⟩
    · obtain ⟨placed, has, rfl, same⟩ :=
        (shows.others steps content isIndex).1 present
      exact Or.inr ⟨placed, has, spelled placed has, same⟩
  · rintro (⟨rfl, present⟩ | ⟨placed, has, rfl, rfl⟩)
    · exact ⟨["store"], by simp, rfl, shows.index.trans present⟩
    · exact ⟨placed.location.route, by simp [Location.route],
        (spelled placed has).symm, shows.content?_route has⟩

/-! ## The list of all records -/

/-- The list of all records is read back, in order. -/
theorem Shows.readable_of_index
    {locations : List Location}
    (shows :
      Shows site start files shelf (some (Record.encodeIndex locations)))
    (free : site.IsFree start)
    (root : store.root = site.path [])
    (sound : ∀ location ∈ locations, location.IsSound)
    (fits : (Record.indexValue locations).fits = true) :
    store.readable files = .ok (Location.sort locations) := by
  have read :
      files.read store.indexFile = .ok (Record.encodeIndex locations) := by
    rw [indexFile_eq root, shows.frame.read_eq_ok_iff free (by decide)]
    exact shows.index
  have decoded := Record.decodeIndex_encodeIndex sound fits
  simp only [readable, listed_of_read read, decoded, ok_bind, pure_eq_ok]

end CrateShelf.Store
