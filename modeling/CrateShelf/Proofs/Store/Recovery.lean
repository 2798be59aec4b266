import CrateShelf.Proofs.Job
import CrateShelf.Proofs.Pack.RoundTrip
import CrateShelf.Proofs.Record.Misfit

/-!
# Finding records among arbitrary files

Files of records that cannot be read, or hold something else, are passed over
when the records themselves are asked what there is, and they are asked when
the list of all records is not there or is refused.

Main statement: how finding the records still fails, which is where a file
holds content that is not even refused, or records that have no order.
-/

namespace CrateShelf.Store

section

variable [Depths]

/-! ## One file -/

/-- What a file with a name that a record's file can have is read as. -/
def readIn? (files : FileTree) (file : DiskPath) :
    Option (Except Record.DecodeError Record) :=
  match Location.nameOf file.name, files.read file with
  | .ok _, .ok bytes => some (Record.decode bytes)
  | _, _ => none

/-- The location of the record in a file, if the file holds one. -/
def locationIn? (files : FileTree) (file : DiskPath) : Option Location :=
  ((readIn? files file).bind Except.toOption).map fun record =>
    record.location (Location.discriminatorOf file.name)

/-- Whether a file holds content that is neither a record nor refused. -/
def IsStrange (files : FileTree) (file : DiskPath) : Prop :=
  ∃ result, readIn? files file = some result ∧ Record.IsUnforeseen result

/-- What is learnt from a file. -/
def learn (files : FileTree) (file : DiskPath) :
    Except StoreError (Option Location) :=
  match readIn? files file with
  | none => .ok none
  | some (.ok record) =>
    .ok (some (record.location (Location.discriminatorOf file.name)))
  | some (.error error) =>
    if error.isRefusal then .ok none else .error (.unexpected error)

theorem scanFile_answers (file : DiskPath) (world : World) :
    (scanFile file).Answers world (learn world.files file) := by
  unfold scanFile learn readIn?
  cases Location.nameOf file.name with
  | error error => exact ⟨_, rfl⟩
  | ok name =>
      simp only [Job.Answers, Job.on_bind_ok (Job.on_get world)]
      cases world.files.read file with
      | error fault => exact ⟨_, rfl⟩
      | ok bytes =>
          dsimp only
          cases Record.decode bytes with
          | error error =>
              dsimp only
              cases error.isRefusal with
              | true => exact ⟨_, rfl⟩
              | false => exact ⟨_, rfl⟩
          | ok record =>
              dsimp only
              split
              · exact ⟨_, rfl⟩
              · exact ⟨_, rfl⟩

/-- What is learnt from a file that is not strange is the location of its
record. -/
theorem learn_of_not_isStrange
    {files : FileTree}
    {file : DiskPath}
    (usual : ¬ IsStrange files file) :
    learn files file = .ok (locationIn? files file) := by
  unfold learn locationIn?
  cases found : readIn? files file with
  | none => rfl
  | some result =>
      cases result with
      | ok record => rfl
      | error error =>
          have refused : error.isRefusal = true := by
            by_contra other
            exact usual ⟨_, found, error, rfl, Bool.eq_false_iff.2 other⟩
          simp only [refused, if_true]
          rfl

theorem learn_of_isStrange
    {files : FileTree}
    {file : DiskPath}
    (strange : IsStrange files file) :
    ∃ error, learn files file = .error (.unexpected error) := by
  obtain ⟨_, found, error, rfl, unforeseen⟩ := strange
  refine ⟨error, ?_⟩
  unfold learn
  simp only [found, unforeseen]
  rfl

/-! ## All files -/

/-- The locations of the records in files below a directory. -/
def locationsBelow (files : FileTree) (directory : DiskPath) :
    List Location :=
  (recordFiles files directory).filterMap (locationIn? files)

/-- What is learnt from the files below a directory, if it is one. -/
def survey (files : FileTree) (directory : DiskPath) :
    Except StoreError (List Location) := do
  if ← (files.isDirectory directory).mapError .disk then
    let found ← (recordFiles files directory).mapM (learn files)
    let locations := found.filterMap id
    if Location.canSort locations then return Location.sort locations
    else throw .fileless
  else return []

theorem scan_answers (directory : DiskPath) (world : World) :
    (scan directory).Answers world (survey world.files directory) := by
  apply Job.Answers.bind (Job.answers_ask _ _ world)
  intro isDirectory log _
  split
  · rw [Job.answers_get_bind]
    apply Job.Answers.bind
    · apply Job.answers_mapM
      intro file _ log
      exact scanFile_answers file _
    · intro found log _
      dsimp only
      split
      · exact Job.answers_pure _ _
      · exact Job.answers_throw _ _
  · exact Job.answers_pure _ _

/-- Files of which none is strange are each learnt from or passed over. -/
theorem survey_of_usual
    {files : FileTree}
    {directory : DiskPath}
    (isDirectory : files.isDirectory directory = .ok true)
    (usual : ∀ file ∈ recordFiles files directory, ¬ IsStrange files file) :
    survey files directory =
      if Location.canSort (locationsBelow files directory) then
        .ok (Location.sort (locationsBelow files directory))
      else .error .fileless := by
  have found :
      (recordFiles files directory).mapM (learn files) =
        .ok ((recordFiles files directory).map (locationIn? files)) :=
    mapM_eq_ok_map (locationIn? files) fun file member =>
      learn_of_not_isStrange (usual file member)
  have locations :
      ((recordFiles files directory).map (locationIn? files)).filterMap id =
        locationsBelow files directory := by
    rw [List.filterMap_map, Function.id_comp, locationsBelow]
  simp only [survey, isDirectory, Except.mapError, ok_bind, if_true, found,
    locations, pure_eq_ok, throw_eq_error]

/-- The first strange file ends the search. -/
theorem survey_of_strange
    {files : FileTree}
    {directory : DiskPath}
    (isDirectory : files.isDirectory directory = .ok true)
    (strange : ∃ file ∈ recordFiles files directory, IsStrange files file) :
    ∃ error, survey files directory = .error (.unexpected error) := by
  have failed :
      ∀ paths : List DiskPath, (∃ file ∈ paths, IsStrange files file) →
        ∃ error, paths.mapM (learn files) = .error (.unexpected error) := by
    intro paths strange
    induction paths with
    | nil => simp at strange
    | cons file paths inductionStep =>
        rw [List.exists_mem_cons_iff] at strange
        by_cases first : IsStrange files file
        · obtain ⟨error, learnt⟩ := learn_of_isStrange first
          exact ⟨error, by simp [List.mapM_cons, learnt]⟩
        · obtain ⟨error, later⟩ :=
            inductionStep (strange.resolve_left first)
          refine ⟨error, ?_⟩
          simp [List.mapM_cons, learn_of_not_isStrange first, later]
  obtain ⟨error, learnt⟩ := failed _ strange
  refine ⟨error, ?_⟩
  simp only [survey, isDirectory, Except.mapError, ok_bind, if_true, learnt,
    error_bind]

/-! ## The list of all records -/

omit [Depths] in
theorem isFile_of_read
    {files : FileTree}
    {file : DiskPath}
    {bytes : Bytes}
    (read : files.read file = .ok bytes) :
    files.isFile file = .ok true := by
  unfold FileTree.read FileTree.blame at read
  unfold FileTree.isFile FileTree.entryAt
  cases found : files.find file with
  | error cause =>
      rw [found] at read
      cases read
  | ok entry =>
      obtain ⟨address, entry⟩ := entry
      rw [found] at read
      cases entry with
      | file content => rfl
      | directory => cases read

/-- What the list of all records says, if it is there and not refused. -/
def listed (store : Store) (files : FileTree) :
    Except StoreError (Option (List Location)) := do
  if ← (files.isFile store.indexFile).mapError .disk then
    let bytes ← (files.read store.indexFile).mapError .disk
    match Record.decodeIndex bytes with
    | .ok locations => return some locations
    | .error error =>
      if error.isRefusal then return none else throw (.unexpected error)
  else return none

theorem readIndex_answers (store : Store) (world : World) :
    store.readIndex.Answers world (store.listed world.files) := by
  apply Job.Answers.bind (Job.answers_ask _ _ world)
  intro isFile log _
  split
  · apply Job.Answers.bind (Job.answers_ask _ _ _)
    intro bytes log _
    cases Record.decodeIndex bytes with
    | ok locations => exact Job.answers_pure _ _
    | error error =>
        dsimp only
        split
        · exact ⟨_, rfl⟩
        · exact Job.answers_throw _ _
  · exact Job.answers_pure _ _

/-- What the list of all records or else the records themselves say. -/
def readable (store : Store) (files : FileTree) :
    Except StoreError (List Location) := do
  match ← store.listed files with
  | some locations => return locations
  | none => survey files store.root

theorem readLocations_answers (store : Store) (world : World) :
    store.readLocations.Answers world (store.readable world.files) := by
  apply Job.Answers.bind (readIndex_answers store world)
  intro known log _
  cases known with
  | some locations => exact Job.answers_pure _ _
  | none => exact scan_answers store.root _

/-- Locations that are not remembered are looked for. -/
theorem allLocations_of_unknown
    (store : Store)
    {world : World}
    (unknown : world.known? = none) :
    (store.allLocations.on world).1 = store.readable world.files := by
  obtain ⟨log, read⟩ := readLocations_answers store world
  unfold allLocations
  rw [Job.on_bind_ok (Job.on_get world), unknown, Job.on_bind, read]
  cases store.readable world.files with
  | error error => rfl
  | ok locations => rfl

theorem scan_result (directory : DiskPath) (world : World) :
    ((scan directory).on world).1 = survey world.files directory := by
  obtain ⟨log, done⟩ := scan_answers directory world
  rw [done]

theorem listed_of_read
    {store : Store}
    {files : FileTree}
    {bytes : Bytes}
    (read : files.read store.indexFile = .ok bytes) :
    store.listed files =
      match Record.decodeIndex bytes with
      | .ok locations => .ok (some locations)
      | .error error =>
        if error.isRefusal then .ok none else .error (.unexpected error) := by
  simp only [listed, isFile_of_read read, read, Except.mapError, ok_bind,
    if_true, pure_eq_ok, throw_eq_error]

/-- The search for records passes over bad files exactly when none of them is
strange and the records that are found have an order. -/
theorem scan_answers_iff
    {directory : DiskPath}
    {world : World}
    (isDirectory : world.files.isDirectory directory = .ok true) :
    (scan directory).Answers world
        (.ok (Location.sort (locationsBelow world.files directory))) ↔
      (∀ file ∈ recordFiles world.files directory,
        ¬ IsStrange world.files file) ∧
        Location.canSort (locationsBelow world.files directory) = true := by
  have result := scan_result directory world
  constructor
  · rintro ⟨log, done⟩
    rw [done] at result
    have usual :
        ∀ file ∈ recordFiles world.files directory,
          ¬ IsStrange world.files file := by
      intro file member strange
      obtain ⟨error, failed⟩ :=
        survey_of_strange isDirectory ⟨file, member, strange⟩
      rw [failed] at result
      cases result
    refine ⟨usual, ?_⟩
    rw [survey_of_usual isDirectory usual] at result
    by_contra disordered
    rw [if_neg disordered] at result
    cases result
  · rintro ⟨usual, ordered⟩
    have answers := scan_answers directory world
    rwa [survey_of_usual isDirectory usual, if_pos ordered] at answers

/--
Which bytes are read or refused, as records and as lists of all records; when
the search for records passes over the files that hold none; and when the
records themselves are asked for all locations.
-/
theorem isForeseen_iff_and_recovery
    (bytes : Bytes)
    (directory : DiskPath)
    (store : Store)
    (world : World) :
    (Record.IsForeseen (Record.decode bytes) ↔
      Pack.unpack bytes ≠ .error .tooDeep ∧
        ∀ entries,
          Pack.unpack bytes = .ok (.map entries) →
            ¬ Record.IsMisfit entries) ∧
      (Record.IsForeseen (Record.decodeIndex bytes) ↔
        Pack.unpack bytes ≠ .error .tooDeep ∧
          ∀ entries,
            Pack.unpack bytes = .ok (.map entries) →
              ¬ Record.IsMisfitIndex entries) ∧
      (world.files.isDirectory directory = .ok true →
        ((scan directory).Answers world
            (.ok (Location.sort (locationsBelow world.files directory))) ↔
          (∀ file ∈ recordFiles world.files directory,
            ¬ IsStrange world.files file) ∧
            Location.canSort (locationsBelow world.files directory) =
              true)) ∧
      (world.known? = none →
        (world.files.isFile store.indexFile = .ok false →
          (store.allLocations.on world).1 =
            ((scan store.root).on world).1) ∧
        (world.files.read store.indexFile = .ok bytes →
          (∀ locations,
            Record.decodeIndex bytes = .ok locations →
              (store.allLocations.on world).1 = .ok locations) ∧
          (∀ error,
            Record.decodeIndex bytes = .error error →
              (store.allLocations.on world).1 =
                if error.isRefusal then ((scan store.root).on world).1
                else .error (.unexpected error)))) := by
  refine ⟨?_, ?_, scan_answers_iff, ?_⟩
  · rw [Record.isForeseen_iff_not_isUnforeseen,
      Record.isUnforeseen_decode_iff, not_or, not_exists]
    simp only [not_and, ne_eq]
  · rw [Record.isForeseen_iff_not_isUnforeseen,
      Record.isUnforeseen_decodeIndex_iff, not_or, not_exists]
    simp only [not_and, ne_eq]
  · intro unknown
    rw [allLocations_of_unknown store unknown, scan_result]
    constructor
    · intro missing
      simp only [readable, listed, missing, Except.mapError, ok_bind,
        Bool.false_eq_true, if_false, pure_eq_ok]
    · intro read
      constructor
      · intro locations decoded
        simp only [readable, listed_of_read read, decoded, ok_bind,
          pure_eq_ok]
      · intro error decoded
        simp only [readable, listed_of_read read, decoded]
        cases error.isRefusal with
        | true => rfl
        | false => rfl

end

/-- A record whose path is a number. -/
def numberPath : Pack.Value :=
  .map [
    Record.entry "crate" "a",
    Record.entry "kind" "Function",
    Record.entry "mod_path" (.int 5),
    Record.entry "name" "m",
    Record.entry "version" "1"]

theorem unpack_numberPath [Depths] :
    Pack.unpack (Pack.pack numberPath) = .ok numberPath := by
  obtain ⟨depth, packed⟩ := Nat.exists_eq_add_of_le' Depths.four_le_packed
  apply Pack.unpack_pack
  · apply Pack.Value.IsPlain.map
    · simp [Record.entry]
    · simp [Record.entry]
    · simp [Record.entry, packed, Pack.Value.IsPlain.text,
        Pack.Value.IsPlain.int]
  · decide +kernel

/-- Not all bytes are either read as a record or refused, however deeply
documents may be nested. -/
theorem not_all_isForeseen :
    ¬ ∃ _ : Depths, ∀ bytes, Record.IsForeseen (Record.decode bytes) := by
  rintro ⟨_, claimed⟩
  have unforeseen :
      Record.IsUnforeseen (Record.decode (Pack.pack numberPath)) := by
    rw [Record.isUnforeseen_decode_iff]
    refine Or.inr ⟨_, unpack_numberPath, .function, ?_, Or.inl ?_⟩
    · exact ⟨rfl, rfl, ⟨_, rfl, rfl⟩, _, rfl, rfl⟩
    · exact ⟨_, rfl, rfl⟩
  exact (Record.isForeseen_iff_not_isUnforeseen _).1
    (claimed (Pack.pack numberPath)) unforeseen

/-- A disk with a store whose only record and list of all records are no
documents. -/
def spoiled : World where
  files :=
    ⟨[(["reg"], .directory), (["reg", "doc"], .directory),
      (["reg", "doc", "store"], .file [193]),
      (["reg", "doc", "f.odoc"], .file [193])]⟩

/-- The store on that disk. -/
def spoiledStore : Store := ⟨⟨"", ["reg"]⟩⟩

theorem recordFiles_spoiled :
    recordFiles spoiled.files spoiledStore.root =
      [⟨"", ["reg", "doc", "f.odoc"]⟩] := by
  have found :
      ((spoiled.files.descend spoiledStore.root).map (·.1)).filter
          (fun path => path.name.endsWith Location.fileEnding) =
        [⟨"", ["reg", "doc", "f.odoc"]⟩] := by
    decide +kernel
  rw [recordFiles, found]
  exact List.mergeSort_singleton _

section

attribute [local instance] Depths.usual

theorem readIn?_spoiled :
    readIn? spoiled.files ⟨"", ["reg", "doc", "f.odoc"]⟩ =
      some (.error (.undecodable (.invalidOpcode 0))) := by
  rfl

theorem recovery_spoiled :
    spoiled.files.isDirectory spoiledStore.root = .ok true ∧
      (∀ file ∈ recordFiles spoiled.files spoiledStore.root,
        ¬ IsStrange spoiled.files file) ∧
      spoiled.known? = none ∧
      spoiled.files.read spoiledStore.indexFile = .ok [193] ∧
      (spoiledStore.allLocations.on spoiled).1 = .ok [] := by
  have isDirectory :
      spoiled.files.isDirectory spoiledStore.root = .ok true := by
    decide +kernel
  have read : spoiled.files.read spoiledStore.indexFile = .ok [193] := by
    decide +kernel
  have usual :
      ∀ file ∈ recordFiles spoiled.files spoiledStore.root,
        ¬ IsStrange spoiled.files file := by
    rw [recordFiles_spoiled, List.forall_mem_singleton]
    rintro ⟨result, found, error, rfl, strange⟩
    rw [readIn?_spoiled] at found
    cases found
    cases strange
  have nothing :
      locationsBelow spoiled.files spoiledStore.root = [] := by
    rw [locationsBelow, recordFiles_spoiled, List.filterMap_cons, locationIn?,
      readIn?_spoiled]
    rfl
  obtain ⟨_, _, scanned, recovered⟩ :=
    isForeseen_iff_and_recovery [193] spoiledStore.root spoiledStore spoiled
  rw [nothing] at scanned
  obtain ⟨log, done⟩ := (scanned isDirectory).2 ⟨usual, rfl⟩
  refine ⟨isDirectory, usual, rfl, read, ?_⟩
  rw [((recovered rfl).2 read).2 (.undecodable (.invalidOpcode 0)) rfl, done]
  simp [Record.DecodeError.isRefusal, Location.sort]

end

end CrateShelf.Store
