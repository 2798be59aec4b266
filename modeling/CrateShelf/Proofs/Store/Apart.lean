import CrateShelf.Proofs.Disk.Sparing
import CrateShelf.Proofs.Store.History

/-!
# Directories of different crates

The directory of a crate is named by the crate's name, a hyphen and its
version, whatever characters these have: a slash leads to another directory,
and a hyphen may be the one that joins the two or one of their own.  So
different crates may share a directory, one may be in the other's, and a
directory may be outside of the store.

Main statements: the directories of crates without slashes are apart exactly
when their names differ; and the writing of a crate, whether it succeeds or
not, leaves all files outside of the store as they are if the crate's
directory is in the store, and all files of every crate whose directory is
apart.
-/

namespace CrateShelf

namespace Store

/-! ## Directories that are apart -/

/-- Whether the directory of a crate is strictly below that of the store. -/
def IsInside (store : Store) (crate : CrateId) : Prop :=
  store.root.settled <+: (store.crateDirectory crate).settled ∧
    (store.crateDirectory crate).settled ≠ store.root.settled

/-- Whether the directories of two crates are below that of the store and
neither is in the other. -/
structure AreApart (store : Store) (first second : CrateId) : Prop where
  inside : store.IsInside first
  alsoInside : store.IsInside second
  notBelow :
    ¬ (store.crateDirectory first).settled <+:
      (store.crateDirectory second).settled
  notAbove :
    ¬ (store.crateDirectory second).settled <+:
      (store.crateDirectory first).settled

variable
    {store : Store}
    {crate first second : CrateId}

/-- Without a slash, the name of a crate's directory is one more step. -/
theorem settled_crateDirectory
    (slashFree : '/' ∉ crate.dirName.toList) :
    (store.crateDirectory crate).settled =
      store.root.settled ++ [crate.dirName] := by
  have plain : ".." ∉ [crate.dirName] := by
    rw [List.mem_singleton]
    exact fun same => crate.dirName_ne (by decide) same.symm
  rw [crateDirectory,
    DiskPath.child_of_not_mem _ slashFree (crate.dirName_ne (by decide))
      (crate.dirName_ne (by decide)),
    FileTree.settled_down plain]

theorem isInside_of_not_mem
    (slashFree : '/' ∉ crate.dirName.toList) :
    store.IsInside crate := by
  unfold IsInside
  rw [settled_crateDirectory slashFree]
  constructor
  · exact List.prefix_append _ _
  · simp

theorem areApart_iff_of_not_mem
    (slashFree : '/' ∉ first.dirName.toList)
    (alsoSlashFree : '/' ∉ second.dirName.toList) :
    store.AreApart first second ↔ first.dirName ≠ second.dirName := by
  have prefix_iff :
      ∀ name other : String,
        store.root.settled ++ [name] <+: store.root.settled ++ [other] ↔
          name = other := by
    intro name other
    rw [List.prefix_append_right_inj, List.cons_prefix_cons]
    simp
  constructor
  · intro apart same
    apply apart.notBelow
    rw [settled_crateDirectory slashFree,
      settled_crateDirectory alsoSlashFree, prefix_iff]
    exact same
  · intro different
    constructor
    · exact isInside_of_not_mem slashFree
    · exact isInside_of_not_mem alsoSlashFree
    · rw [settled_crateDirectory slashFree,
        settled_crateDirectory alsoSlashFree, prefix_iff]
      exact different
    · rw [settled_crateDirectory slashFree,
        settled_crateDirectory alsoSlashFree, prefix_iff]
      exact different.symm

end Store

/-! ## Names of directories -/

namespace CrateId

variable {name version otherName otherVersion : String}

theorem toList_dirName (name version : String) :
    (CrateId.mk (.text name) (.text version)).dirName.toList =
      name.toList ++ '-' :: version.toList := by
  simp [dirName]

/-- Where only one hyphen can be the one that joins name and version, both are
read from the directory's name. -/
theorem eq_of_dirName_eq
    (plain :
      '-' ∉ name.toList ∧ '-' ∉ otherName.toList ∨
        '-' ∉ version.toList ∧ '-' ∉ otherVersion.toList)
    (same :
      (CrateId.mk (.text name) (.text version)).dirName =
        (CrateId.mk (.text otherName) (.text otherVersion)).dirName) :
    name = otherName ∧ version = otherVersion := by
  have spelled := congrArg String.toList same
  rw [toList_dirName, toList_dirName] at spelled
  rcases plain with ⟨first, second⟩ | ⟨first, second⟩
  · have cut := congrArg (Text.cutFirst '-') spelled
    rw [Text.cutFirst_append first, Text.cutFirst_append second,
      Prod.mk.injEq, Option.some_inj] at cut
    exact ⟨String.toList_injective cut.1, String.toList_injective cut.2⟩
  · have last := congrArg (Text.afterLast? '-') spelled
    rw [Text.afterLast?_append _ first, Text.afterLast?_append _ second,
      Option.some_inj] at last
    rw [last] at spelled
    exact ⟨String.toList_injective (List.append_cancel_right spelled),
      String.toList_injective last⟩

end CrateId

namespace Store

variable
    {store : Store}
    {crate first second : CrateId}
    {records : List Record}
    {location : Location}
    {start : FileTree}

/-! ## Files of a crate -/

/-- The file of a record leads on from the directory of its crate. -/
theorem recordFile_eq_down
    (slashFree : '/' ∉ location.marked.toList) :
    store.recordFile location =
      (store.crateDirectory location.crate).down location.steps := by
  rw [recordFile, crateDirectory, Location.relativePath_eq slashFree]
  unfold DiskPath.child DiskPath.join DiskPath.down
  split
  · simp
  · simp

theorem settled_recordFile
    (slashFree : '/' ∉ location.marked.toList) :
    (store.recordFile location).settled =
      (store.crateDirectory location.crate).settled ++ location.steps := by
  rw [recordFile_eq_down slashFree, FileTree.settled_down]
  intro member
  exact location.plain_route (List.mem_cons_of_mem _ member)

/-- The root has no name that a record's file could have. -/
theorem settled_recordFile_ne_root
    (slashFree : '/' ∉ location.marked.toList) :
    (store.recordFile location).settled ≠ [FileTree.rootName] := by
  intro same
  rw [settled_recordFile slashFree, Location.steps, ← List.append_assoc] at same
  have last := congrArg List.getLast? same
  rw [List.getLast?_concat] at last
  have noSlash := Location.not_mem_fileName slashFree
  rw [Option.some_inj.1 last] at noSlash
  exact noSlash (by decide)

theorem settled_indexFile (store : Store) :
    store.indexFile.settled = store.root.settled ++ ["store"] := by
  rw [indexFile,
    DiskPath.child_of_not_mem _ (by decide) (by decide) (by decide),
    FileTree.settled_down (by decide)]

theorem settled_freshIndexFile (store : Store) :
    store.freshIndexFile.settled = store.root.settled ++ ["store.tmp"] := by
  rw [freshIndexFile,
    DiskPath.child_of_not_mem _ (by decide) (by decide) (by decide),
    FileTree.settled_down (by decide)]

/-! ## What the writing of a crate spares -/

/-- Whether an address is outside of the directory of a crate and not that of
a list of all records. -/
structure IsSpared
    (store : Store)
    (crate : CrateId)
    (address : Address) : Prop where
  outside : ¬ (store.crateDirectory crate).settled <+: address
  notIndex : address ≠ store.indexFile.settled
  notFresh : address ≠ store.freshIndexFile.settled

theorem preserves_writePlaced
    {blame : DiskFault → StoreError}
    {placed : Placed}
    (slashFree : '/' ∉ placed.location.marked.toList) :
    (store.writePlaced blame placed).Preserves
      (FileTree.Spares (store.IsSpared placed.location.crate) start) := by
  apply Job.preserves_change
  intro files later done spares
  apply spares.place _ (settled_recordFile_ne_root slashFree) done
  intro isSpared
  apply isSpared.outside
  rw [settled_recordFile slashFree]
  exact List.prefix_append _ _

section

variable [Depths]

theorem preserves_readLocations
    {Holds : FileTree → Prop} :
    store.readLocations.Preserves Holds :=
  Job.preserves_of_answers fun world =>
    ⟨_, readLocations_answers store world⟩

omit [Depths] in
/-- The new list is written and moved to the place of the old one; nothing
else changes. -/
theorem preserves_writeIndex (locations : List Location) :
    (store.writeIndex locations).Preserves
      (FileTree.Spares (store.IsSpared crate) start) := by
  have notRoot :
      store.indexFile.settled ≠ [FileTree.rootName] ∧
        store.freshIndexFile.settled ≠ [FileTree.rootName] := by
    rw [settled_indexFile, settled_freshIndexFile]
    constructor
    · intro same
      have last := congrArg List.getLast? same
      rw [List.getLast?_concat] at last
      exact absurd last (by decide)
    · intro same
      have last := congrArg List.getLast? same
      rw [List.getLast?_concat] at last
      exact absurd last (by decide)
  unfold writeIndex
  apply Job.Preserves.bind
  · apply Job.preserves_change
    intro files later done spares
    exact spares.ensureDirectories done
  intro _
  dsimp only
  split
  · split
    · exact Job.preserves_throw_bind _ _
    · -- The file that is moved is the one that was just written.
      intro world spares
      rw [Job.on_bind, Job.on_change]
      cases written : world.files.write store.freshIndexFile
          (Record.encodeIndex locations) with
      | error fault => exact spares
      | ok fresh =>
          dsimp only
          have between : FileTree.Spares (store.IsSpared crate) start fresh :=
            spares.write (fun isSpared => isSpared.notFresh rfl) notRoot.2
              written
          have isFile :=
            FileTree.find_of_write spares.grounded written
          rw [Job.on_bind, Job.on_change]
          cases renamed : fresh.rename store.freshIndexFile
              store.indexFile with
          | error fault => exact between
          | ok final =>
              exact between.rename isFile
                (fun isSpared => isSpared.notFresh rfl)
                (fun isSpared => isSpared.notIndex rfl) notRoot.1 renamed
  · exact Job.preserves_throw_bind _ _

omit [Depths] in
/-- The files of places of records of a crate are written into its
directory. -/
theorem preserves_writeAllPlaced
    (ofCrate : ∀ record ∈ records, record.crate = crate)
    (blame : DiskFault → StoreError) :
    ((place records).1.forM (store.writePlaced blame)).Preserves
      (FileTree.Spares (store.IsSpared crate) start) := by
  apply Job.preserves_forM
  intro placed member
  rcases exists_holds_of_mem_place member with ⟨record, inRecords, holds⟩
  rcases holds.exists_location_eq with ⟨mark, located, isMark⟩
  have slashFree : '/' ∉ placed.location.marked.toList :=
    isMark.not_mem_marked (by rw [located]; rfl)
  rw [← ofCrate record inRecords, ← holds.crate_eq]
  exact preserves_writePlaced slashFree

/-- Writing the records of a crate changes no file outside of its directory
but the list of all records. -/
theorem preserves_writeCrate
    (ofCrate : ∀ record ∈ records, record.crate = crate) :
    (store.writeCrate crate records).Preserves
      (FileTree.Spares (store.IsSpared crate) start) := by
  -- What is done in the end, whether or not the directory was there.
  have written :
      ∀ blame locations,
        ((place records).1.forM (store.writePlaced blame) >>= fun _ =>
          store.readLocations >>= fun previous =>
            store.writeIndex (previous.filter
                (fun location => location.crate ≠ crate) ++ locations) >>=
              fun _ => Job.note ⟨.info, "store", "Stored " ++
                toString locations.length ++ " records for " ++
                  crate.toText⟩ >>= fun _ => pure locations).Preserves
          (FileTree.Spares (store.IsSpared crate) start) := by
    intro blame locations
    refine Job.Preserves.bind (preserves_writeAllPlaced ofCrate blame) ?_
    intro _
    refine Job.Preserves.bind preserves_readLocations ?_
    intro previous
    refine Job.Preserves.bind (preserves_writeIndex _) ?_
    intro _
    exact (Job.preserves_note _).bind fun _ => Job.preserves_pure _
  unfold writeCrate
  dsimp only
  split
  · split
    · exact Job.Preserves.bind (Job.preserves_noteAll _) fun _ =>
        Job.preserves_throw_bind _ _
    · refine Job.Preserves.bind (Job.preserves_noteAll _) ?_
      intro _
      refine Job.Preserves.bind (Job.preserves_ask _ _) ?_
      intro isTaken
      split
      · apply Job.Preserves.bind
        · apply Job.preserves_change
          intro files later done spares
          apply spares.removeTree _ done
          exact fun address isSpared => isSpared.outside
        · intro _
          exact written _ _
      · exact written _ _
  · exact Job.preserves_throw_bind _ _

omit [Depths] in
/-- Outside of the store nothing is of interest to the writing of a crate. -/
theorem IsInside.isSpared_of_outside
    (inside : store.IsInside crate)
    {address : Address}
    (outside : ¬ store.root.settled <+: address) :
    store.IsSpared crate address := by
  constructor
  · intro below
    exact outside (inside.1.trans below)
  · rw [settled_indexFile]
    rintro rfl
    exact outside (List.prefix_append _ _)
  · rw [settled_freshIndexFile]
    rintro rfl
    exact outside (List.prefix_append _ _)

omit [Depths] in
/-- A list of all records is in no directory of a crate. -/
theorem IsInside.ne_of_below
    (inside : store.IsInside crate)
    {address : Address}
    (below : (store.crateDirectory crate).settled <+: address)
    (strictly : address ≠ (store.crateDirectory crate).settled)
    (name : String) :
    address ≠ store.root.settled ++ [name] := by
  rintro rfl
  rcases inside with ⟨⟨names, spelled⟩, notRoot⟩
  rw [← spelled] at below strictly notRoot
  rw [List.prefix_append_right_inj] at below
  cases names with
  | nil => exact notRoot (List.append_nil _)
  | cons first names =>
      rw [List.cons_prefix_cons] at below
      rcases below with ⟨rfl, nothing⟩
      rw [List.prefix_nil.1 nothing] at strictly
      exact strictly rfl

omit [Depths] in
theorem AreApart.isSpared_of_below
    (apart : store.AreApart first second)
    {address : Address}
    (below : (store.crateDirectory second).settled <+: address)
    (strictly : address ≠ (store.crateDirectory second).settled) :
    store.IsSpared first address := by
  constructor
  · intro alsoBelow
    rcases List.prefix_or_prefix_of_prefix alsoBelow below with
      first | second
    · exact apart.notBelow first
    · exact apart.notAbove second
  · rw [settled_indexFile]
    exact apart.alsoInside.ne_of_below below strictly _
  · rw [settled_freshIndexFile]
    exact apart.alsoInside.ne_of_below below strictly _

/--
Different crates without slashes have directories that are apart exactly when
the names of the directories are different, as they are where only one hyphen
can join name and version.  Whatever the name of a crate is: if its directory
is in the store, then writing its records, with success or without, changes
no file outside of the store; and it changes no file in the directory of
another crate if the two are apart.
-/
theorem areApart_iff_and_file_iff
    (store : Store)
    {name version otherName otherVersion : String}
    {first second : CrateId}
    (made : CrateId.make name version = .ok first)
    (alsoMade : CrateId.make otherName otherVersion = .ok second)
    (different : first ≠ second) :
    ('/' ∉ first.dirName.toList → '/' ∉ second.dirName.toList →
      (store.AreApart first second ↔ first.dirName ≠ second.dirName)) ∧
    ('-' ∉ name.toList ∧ '-' ∉ otherName.toList ∨
        '-' ∉ version.toList ∧ '-' ∉ otherVersion.toList →
      first.dirName ≠ second.dirName) ∧
    ∀ (records : List Record) (world : World),
      world.files.IsGrounded →
        (∀ record ∈ records, record.crate = first) →
          (store.IsInside first →
            ∀ (address : Address) (content : Bytes),
              ¬ store.root.settled <+: address →
                ((Job.on (store.writeCrate first records)
                    world).2.files.get? address = some (.file content) ↔
                  world.files.get? address = some (.file content))) ∧
          (store.AreApart first second →
            ∀ (address : Address) (content : Bytes),
              (store.crateDirectory second).settled <+: address →
                address ≠ (store.crateDirectory second).settled →
                  ((Job.on (store.writeCrate first records)
                      world).2.files.get? address = some (.file content) ↔
                    world.files.get? address = some (.file content))) := by
  refine ⟨areApart_iff_of_not_mem, ?_, ?_⟩
  · intro plain same
    rcases (CrateId.make_eq_ok_iff _ _ _).1 made with ⟨_, _, rfl⟩
    rcases (CrateId.make_eq_ok_iff _ _ _).1 alsoMade with ⟨_, _, rfl⟩
    rcases CrateId.eq_of_dirName_eq plain same with ⟨rfl, rfl⟩
    exact different rfl
  · intro records world grounded ofCrate
    have spares :
        FileTree.Spares (store.IsSpared first) world.files
          (Job.on (store.writeCrate first records) world).2.files :=
      preserves_writeCrate ofCrate world (FileTree.Spares.refl grounded)
    constructor
    · intro inside address content outside
      exact spares.file_iff address content
        (inside.isSpared_of_outside outside)
    · intro apart address content below strictly
      exact spares.file_iff address content
        (apart.isSpared_of_below below strictly)

end

/-- Files of a crate beside which another one is written, and a list of no
records. -/
def neighbourFiles : FileTree where
  entries :=
    [ (["reg"], .directory),
      (["reg", "doc"], .directory),
      (["reg", "doc", "store"], .file (Record.encodeIndex [])),
      (["reg", "doc", "lines-2.0.0"], .directory),
      (["reg", "doc", "lines-2.0.0", "Line.odoc"], .file [7]) ]

theorem isGrounded_neighbourFiles : neighbourFiles.IsGrounded :=
  FileTree.isGrounded_of_held (by decide) (by decide) (by decide) (by decide)

section

attribute [local instance] Depths.usual

/-- The records of a crate are written, and the file of its neighbour is as it
was. -/
theorem areApart_and_file_iff_shapes :
    sampleStore.AreApart sampleRecord.crate ⟨"lines", "2.0.0"⟩ ∧
      (Job.on (sampleStore.writeCrate sampleRecord.crate [sampleRecord])
        { files := neighbourFiles }).1.isOk = true ∧
      (Job.on (sampleStore.writeCrate sampleRecord.crate [sampleRecord])
          { files := neighbourFiles }).2.files.get?
        ["reg", "doc", "lines-2.0.0", "Line.odoc"] = some (.file [7]) := by
  have settled :=
    areApart_iff_and_file_iff sampleStore
      (show CrateId.make "shapes" "1.0.0" = .ok _ from rfl)
      (show CrateId.make "lines" "2.0.0" = .ok _ from rfl) (by decide)
  have apart := (settled.1 (by decide) (by decide)).2 (by decide)
  refine ⟨apart, by decide +kernel, ?_⟩
  have kept :=
    (settled.2.2 [sampleRecord] { files := neighbourFiles }
      isGrounded_neighbourFiles (by decide)).2 apart
  apply (kept _ _ ?_ ?_).2
  · decide
  · decide
  · decide

end

/-! ## Crates that share a directory -/

/-- A crate whose version has a hyphen. -/
def lateHyphen : CrateId := ⟨.text "a", .text "b-c"⟩

/-- A crate whose name has a hyphen. -/
def earlyHyphen : CrateId := ⟨.text "a-b", .text "c"⟩

/-- A file in the directory of both crates. -/
def sharedFiles : FileTree where
  entries :=
    [ (["reg"], .directory),
      (["reg", "doc"], .directory),
      (["reg", "doc", "a-b-c"], .directory),
      (["reg", "doc", "a-b-c", "x.odoc"], .file []) ]

theorem isGrounded_sharedFiles : sharedFiles.IsGrounded :=
  FileTree.isGrounded_of_held (by decide) (by decide) (by decide) (by decide)

attribute [local instance] Depths.usual in
/-- Directories of different crates can be the same, and writing the records
of one crate can remove a file of another. -/
theorem not_always_areApart :
    (¬ ∀ (store : Store) (name version otherName otherVersion : String)
      (first second : CrateId),
      CrateId.make name version = .ok first →
        CrateId.make otherName otherVersion = .ok second →
          first ≠ second →
            store.AreApart first second) ∧
    ¬ ∀ (store : Store) (name version otherName otherVersion : String)
      (first second : CrateId),
      CrateId.make name version = .ok first →
        CrateId.make otherName otherVersion = .ok second →
          first ≠ second →
            ∀ (records : List Record) (world : World),
              world.files.IsGrounded →
                (∀ record ∈ records, record.crate = first) →
                  ∀ (address : Address) (content : Bytes),
                    (store.crateDirectory second).settled <+: address →
                      address ≠ (store.crateDirectory second).settled →
                        ((Job.on (store.writeCrate first records)
                            world).2.files.get? address =
                              some (.file content) ↔
                          world.files.get? address =
                            some (.file content)) := by
  constructor
  · intro claimed
    have apart :=
      claimed sampleStore "a-b" "c" "a" "b-c" earlyHyphen lateHyphen rfl rfl
        (by decide)
    exact apart.notBelow (by decide +kernel)
  · intro claimed
    have kept :=
      claimed sampleStore "a-b" "c" "a" "b-c" earlyHyphen lateHyphen rfl rfl
        (by decide) [] { files := sharedFiles } isGrounded_sharedFiles
        (by simp) ["reg", "doc", "a-b-c", "x.odoc"] [] (by decide +kernel)
        (by decide +kernel)
    have removed :
        (Job.on (sampleStore.writeCrate earlyHyphen [])
            { files := sharedFiles }).2.files.get?
          ["reg", "doc", "a-b-c", "x.odoc"] = none := by
      decide +kernel
    rw [removed] at kept
    exact absurd (kept.2 (by decide)) (by simp)

end Store

end CrateShelf
