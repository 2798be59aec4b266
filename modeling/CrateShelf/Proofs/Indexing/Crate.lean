import CrateShelf.Indexing
import CrateShelf.Proofs.Store.Apart
import CrateShelf.Proofs.Tree.Refusal
import CrateShelf.Proofs.Tree.Storage

/-!
# Indexing one crate

First the manifest and the sources of a crate are read, which changes
nothing; then its records are written.

Main statements: a crate that fails before its records are written leaves the
store as it was; it is reported unless its manifest holds something without a
meaning, a path is too long, a setting is of no use or one of its modules is
refused; one with a record that cannot be packed is not reported and changes
nothing either; and what has been said makes no difference.
-/

namespace CrateShelf

variable [Depths]

namespace Store

/-! ## Writing without listening -/

theorem isDeaf_readLocations (store : Store) :
    store.readLocations.IsDeaf :=
  Job.isDeaf_of_answers (readLocations_answers store)

omit [Depths] in
theorem isDeaf_writeIndex (store : Store) (locations : List Location) :
    (store.writeIndex locations).IsDeaf := by
  unfold writeIndex
  apply (Job.isDeaf_change _ _).bind
  intro _
  dsimp only
  split
  · split
    · exact Job.isDeaf_throw_bind _ _
    · apply (Job.isDeaf_change _ _).bind
      intro _
      apply (Job.isDeaf_change _ _).bind
      intro _
      exact Job.isDeaf_remember _
  · exact Job.isDeaf_throw_bind _ _

theorem isDeaf_writeCrate (store : Store) (crate : CrateId)
    (records : List Record) :
    (store.writeCrate crate records).IsDeaf := by
  have written :
      ∀ blame locations,
        ((place records).1.forM (store.writePlaced blame) >>= fun _ =>
          store.readLocations >>= fun previous =>
            store.writeIndex (previous.filter
                (fun location => location.crate ≠ crate) ++ locations) >>=
              fun _ => Job.note ⟨.info, "store", "Stored " ++
                toString locations.length ++ " records for " ++
                  crate.toText⟩ >>= fun _ => pure locations).IsDeaf := by
    intro blame locations
    apply (Job.isDeaf_forM fun _ => Job.isDeaf_change _ _).bind
    intro _
    apply (isDeaf_readLocations store).bind
    intro previous
    apply (isDeaf_writeIndex store _).bind
    intro _
    exact (Job.isDeaf_note _).bind fun _ => Job.isDeaf_pure _
  unfold writeCrate
  dsimp only
  split
  · split
    · exact (Job.isDeaf_noteAll _).bind fun _ => Job.isDeaf_throw_bind _ _
    · apply (Job.isDeaf_noteAll _).bind
      intro _
      apply (Job.isDeaf_ask _ _).bind
      intro isTaken
      split
      · exact (Job.isDeaf_change _ _).bind fun _ => written _ _
      · exact written _ _
  · exact Job.isDeaf_throw_bind _ _

/-- Of a crate with a record that cannot be packed nothing is written, and
this is not foreseen. -/
theorem on_writeCrate_of_not_fits
    {crate : CrateId}
    {records : List Record}
    (store : Store)
    (world : World)
    (unfit : ∃ record ∈ records, record.toValue.fits = false) :
    ∃ error later,
      Job.on (store.writeCrate crate records) world = (.error error, later) ∧
        (Fault.store error).isForeseen = false ∧
        world.IsAlike later := by
  unfold writeCrate
  dsimp only
  split
  · split
    · rename_i error _
      exact ⟨.unpackable error, _, rfl, rfl, rfl, rfl, rfl, rfl⟩
    · rename_i packable
      have fitting :=
        findSome?_writeError?_eq_none_iff.1
          (Option.eq_none_iff_forall_ne_some.2 packable)
      obtain ⟨record, member, unfit⟩ := unfit
      rw [fitting record member] at unfit
      cases unfit
  · exact ⟨.fileless, world, rfl, rfl, World.IsAlike.refl world⟩

end Store

namespace Indexing

variable
    {store : Store}
    {settings : Settings}
    {directory : DiskPath}
    {files : FileTree}
    {world later : World}
    {crate : CrateId}
    {records : List Record}
    {fault : Fault}

/-! ## Before the records are written -/

/-- The file that the source of a crate starts from. -/
def entryOf (files : FileTree) (directory : DiskPath) :
    Except Fault DiskPath := do
  let found? ←
    (Tree.firstFile? files (Manifest.entryFiles directory)).mapError .disk
  match found? with
  | none => throw (.noEntry directory)
  | some entry => return entry

/-- The records that a crate is documented by. -/
def recordsOf (files : FileTree) (crate : CrateId) (skipsHidden : Bool)
    (text : String) (entry : DiskPath) : Except Fault (List Record) :=
  (Tree.document files crate skipsHidden text (some entry)).1.mapError .tree

/-- The crate in a directory and its records. -/
def prepared (settings : Settings) (files : FileTree)
    (directory : DiskPath) : Except Fault (CrateId × List Record) := do
  let crate ← (Manifest.read files directory).mapError .manifest
  let entry ← entryOf files directory
  let skipsHidden ← settings.skipsHidden.mapError .misuse
  let text ← (Tree.readText files entry).mapError
    fun cause => .tree (.unreadable entry cause)
  let records ← recordsOf files crate skipsHidden text entry
  return (crate, records)

theorem on_readManifest (directory : DiskPath) (world : World) :
    Job.on (readManifest directory) world =
      ((Manifest.read world.files directory).mapError .manifest, world) := by
  unfold readManifest
  rw [Job.on_bind_ok (Job.on_get world), Job.on_ofExcept]

omit [Depths] in
theorem on_entryFile (directory : DiskPath) (world : World) :
    Job.on (entryFile directory) world =
      (entryOf world.files directory, world) := by
  unfold entryFile entryOf
  rw [Job.on_bind, Job.on_ask]
  cases Tree.firstFile? world.files (Manifest.entryFiles directory) with
  | error fault => rfl
  | ok found? =>
      cases found? with
      | none => rfl
      | some entry => rfl

theorem on_document (crate : CrateId) (skipsHidden : Bool) (text : String)
    (entry : DiskPath) (world : World) :
    ∃ log,
      Job.on (document crate skipsHidden text (some entry)) world =
        (recordsOf world.files crate skipsHidden text entry,
          { world with log }) := by
  unfold document recordsOf
  rw [Job.on_bind_ok (Job.on_get world)]
  generalize Tree.document world.files crate skipsHidden text (some entry) =
    outcome
  rcases outcome with ⟨result, log⟩
  exact ⟨world.log ++ log, Job.on_ofExcept _ _ _⟩

/-- A crate is indexed by writing what is found for it. -/
theorem on_indexCrate (store : Store) (settings : Settings)
    (directory : DiskPath) (world : World) :
    ∃ log,
      Job.on (indexCrate store settings directory) world =
        match prepared settings world.files directory with
        | .error fault => (.error fault, { world with log })
        | .ok (crate, records) =>
          Job.on (write store crate records) { world with log } := by
  unfold indexCrate prepared
  rw [Job.on_bind, on_readManifest]
  cases (Manifest.read world.files directory).mapError Fault.manifest with
  | error fault => exact ⟨world.log, rfl⟩
  | ok crate =>
      rw [ok_bind]
      dsimp only
      rw [Job.on_bind, on_entryFile]
      cases entryOf world.files directory with
      | error fault => exact ⟨world.log, rfl⟩
      | ok entry =>
          rw [ok_bind]
          dsimp only
          rw [Job.on_bind, Job.on_ofExcept]
          cases settings.skipsHidden.mapError Fault.misuse with
          | error fault => exact ⟨world.log, rfl⟩
          | ok skipsHidden =>
              rw [ok_bind]
              dsimp only
              rw [Job.on_bind_ok (Job.on_note _ _),
                Job.on_bind_ok (Job.on_get _), Job.on_bind, Job.on_ofExcept]
              cases (Tree.readText world.files entry).mapError
                  fun cause => Fault.tree (.unreadable entry cause) with
              | error fault => exact ⟨_, rfl⟩
              | ok text =>
                  rw [ok_bind]
                  dsimp only
                  -- What is documented is never unfolded here: a rewrite under
                  -- the writing of the records would.
                  rcases on_document crate skipsHidden text entry
                    { world with log := world.log ++ [⟨.info, "index_crate",
                      "Indexing " ++ crate.toText ++ " from " ++
                        entry.toText⟩] } with ⟨log, done⟩
                  cases recorded : recordsOf world.files crate skipsHidden
                      text entry with
                  | error fault =>
                      refine ⟨log, Job.on_bind_error ?_⟩
                      exact done.trans (by rw [recorded])
                  | ok records =>
                      refine ⟨log, Job.on_bind_ok ?_⟩
                      exact done.trans (by rw [recorded])

/-- A manifest says a name and a version that are not empty. -/
theorem isSound_of_read
    (read : Manifest.read files directory = .ok crate) :
    crate.IsSound := by
  have given :
      ∀ {table : Toml.Table} {name content : String},
        Manifest.textAt? table name = some content →
          (Pack.Value.text content).isTruthy = true := by
    intro table name content found
    unfold Manifest.textAt? at found
    split at found
    · split at found
      · cases found
      · rename_i some
        cases found
        simpa [Pack.Value.isTruthy] using some
    · cases found
  rcases bind_eq_ok_iff.1 read with ⟨bytes, _, decodes⟩
  rcases bind_eq_ok_iff.1 decodes with ⟨text, _, tells⟩
  split at tells
  · cases tells
  · cases tells
  · unfold Manifest.crateOf at tells
    split at tells
    · split at tells
      · cases tells
      · cases tells
      · rename_i name version named numbered
        cases tells
        exact ⟨⟨rfl, given named⟩, rfl, given numbered⟩
    · cases tells

/-- What is prepared are records of the crate that the manifest tells. -/
theorem of_prepared
    (ready : prepared settings files directory = .ok (crate, records)) :
    Manifest.read files directory = .ok crate ∧
      ∀ record ∈ records, record.crate = crate := by
  rcases bind_eq_ok_iff.1 ready with ⟨known, told, finds⟩
  rcases bind_eq_ok_iff.1 finds with ⟨entry, _, asks⟩
  rcases bind_eq_ok_iff.1 asks with ⟨skipsHidden, _, reads⟩
  rcases bind_eq_ok_iff.1 reads with ⟨text, _, documents⟩
  rcases bind_eq_ok_iff.1 documents with ⟨made, recorded, same⟩
  cases same
  have read := mapError_eq_ok_iff.1 told
  refine ⟨read, ?_⟩
  have documented := mapError_eq_ok_iff.1 recorded
  cases parsed : Source.parse text with
  | error fault =>
      rw [Tree.document_of_unparsed parsed] at documented
      cases documented
  | ok declarations =>
      rw [Tree.document_of_parse parsed] at documented
      cases made : Tree.treeOf files crate skipsHidden (some entry)
          declarations with
      | error error =>
          rw [made] at documented
          cases documented
      | ok tree =>
          rw [made] at documented
          cases documented
          intro record member
          exact (Tree.isStorable_of_mem_records_fst (isSound_of_read read)
            record member).owned

/-! ## Why a crate is not reported -/

/-- What keeps a crate from being indexed without being reported. -/
inductive IsHindered
    (settings : Settings)
    (files : FileTree)
    (directory : DiskPath) :
    Fault → Prop where
  /-- A number of the manifest cannot be converted, or its lists are nested
  too deeply. -/
  | manifest {bytes : Bytes} {text : String} {fault : Toml.Fault}
      (read : files.read (Manifest.fileIn directory) = .ok bytes)
      (decodes : Bytes.decodeText bytes = .ok text)
      (meaningless : Toml.document text = .error fault)
      (wellFormed : fault ≠ .malformed) :
    IsHindered settings files directory (.manifest (.meaningless fault))
  /-- The path of a file that the source may start from is too long. -/
  | entry {path : DiskPath}
      (candidate : path ∈ Manifest.entryFiles directory)
      (long : files.find path = .error .nameTooLong) :
    IsHindered settings files directory
      (.disk { cause := .nameTooLong, path })
  /-- A setting has no value that is of use. -/
  | settings {misuse : Misuse}
      (useless : settings.skipsHidden = .error misuse) :
    IsHindered settings files directory (.misuse misuse)
  /-- The source is at fault where it is nested too deeply. -/
  | nested {entry : DiskPath} {text : String}
      (starts : entryOf files directory = .ok entry)
      (read : Tree.readText files entry = .ok text)
      (deep : Source.parse text = .error .tooDeep) :
    IsHindered settings files directory (.tree .tooDeep)
  /-- The source, or that of one of its modules, is refused. -/
  | source {crate : CrateId} {entry : DiskPath} {skipsHidden : Bool}
      {text : String} {declarations : List Source.Declaration}
      {error : Tree.TreeError}
      (tells : Manifest.read files directory = .ok crate)
      (starts : entryOf files directory = .ok entry)
      (useful : settings.skipsHidden = .ok skipsHidden)
      (read : Tree.readText files entry = .ok text)
      (parsed : Source.parse text = .ok declarations)
      (refused : Tree.IsRefused files skipsHidden Depths.modules
        (Tree.rootPlace crate (some entry)) declarations error) :
    IsHindered settings files directory (.tree error)

omit [Depths] in
theorem fileIn_eq_down (directory : DiskPath) :
    Manifest.fileIn directory = directory.down ["Cargo.toml"] :=
  DiskPath.child_of_not_mem _ (by decide) (by decide) (by decide)

/-- A manifest that says no name and version is reported, unless it holds
something without a meaning. -/
theorem isForeseen_or_isHindered_of_manifest
    {error : ManifestError}
    (valid : directory.parts.any FileTree.isInvalid = false)
    (textual : ∀ bytes,
      files.read (Manifest.fileIn directory) = .ok bytes →
        ∃ text, Bytes.decodeText bytes = .ok text)
    (failed : Manifest.read files directory = .error error) :
    (Fault.manifest error).isForeseen = true ∨
      IsHindered settings files directory (.manifest error) := by
  rcases bind_eq_error_iff.1 failed with unread | ⟨bytes, read, decodes⟩
  · rcases mapError_eq_error_iff.1 unread with ⟨fault, refused, rfl⟩
    have named : fault.cause ≠ .invalidName := by
      intro invalid
      have named := FileTree.isInvalid_of_read refused invalid
      rw [fileIn_eq_down, DiskPath.down, List.any_append, valid] at named
      exact absurd named (by decide)
    refine Or.inl ?_
    unfold Manifest.blame
    rw [if_neg named]
    split
    · rfl
    · rfl
  · have readable := mapError_eq_ok_iff.1 read
    rcases textual bytes readable with ⟨text, decoded⟩
    rw [decoded] at decodes
    rcases bind_eq_error_iff.1 decodes with undecoded | ⟨_, isText, parses⟩
    · cases undecoded
    cases isText
    split at parses
    · cases parses
      exact Or.inl rfl
    · rename_i fault wellFormed meaningless
      cases parses
      exact Or.inr (.manifest readable decoded meaningless wellFormed)
    · refine Or.inl ?_
      unfold Manifest.crateOf at parses
      split at parses
      · split at parses
        · cases parses
          rfl
        · cases parses
          rfl
        · cases parses
      · cases parses
        rfl

/-- A source that nothing starts is reported, unless a path is too long. -/
theorem isForeseen_or_isHindered_of_entry
    (failed : entryOf files directory = .error fault) :
    fault.isForeseen = true ∨ IsHindered settings files directory fault := by
  rcases bind_eq_error_iff.1 failed with unknown | ⟨found?, _, none⟩
  · rcases mapError_eq_error_iff.1 unknown with ⟨refusal, refused, rfl⟩
    rcases Tree.long_of_firstFile? refused with ⟨path, candidate, long, rfl⟩
    exact Or.inr (.entry candidate long)
  · split at none
    · cases none
      exact Or.inl rfl
    · cases none

/-- A crate that fails before its records are written is reported or
hindered. -/
theorem isForeseen_or_isHindered
    (valid : directory.parts.any FileTree.isInvalid = false)
    (textual : ∀ bytes,
      files.read (Manifest.fileIn directory) = .ok bytes →
        ∃ text, Bytes.decodeText bytes = .ok text)
    (failed : prepared settings files directory = .error fault) :
    fault.isForeseen = true ∨ IsHindered settings files directory fault := by
  rcases bind_eq_error_iff.1 failed with untold | ⟨crate, told, finds⟩
  · rcases mapError_eq_error_iff.1 untold with ⟨error, unread, rfl⟩
    exact isForeseen_or_isHindered_of_manifest valid textual unread
  rcases bind_eq_error_iff.1 finds with unknown | ⟨entry, starts, asks⟩
  · exact isForeseen_or_isHindered_of_entry unknown
  rcases bind_eq_error_iff.1 asks with unclear | ⟨skipsHidden, useful, reads⟩
  · rcases mapError_eq_error_iff.1 unclear with ⟨misuse, useless, rfl⟩
    exact Or.inr (.settings useless)
  rcases bind_eq_error_iff.1 reads with unread | ⟨text, read, documents⟩
  · rcases mapError_eq_error_iff.1 unread with ⟨cause, _, rfl⟩
    exact Or.inl rfl
  rw [mapError_eq_ok_iff] at told useful read
  rcases bind_eq_error_iff.1 documents with undocumented | ⟨_, _, done⟩
  · rcases mapError_eq_error_iff.1 undocumented with ⟨error, cause, rfl⟩
    rcases Tree.unparsed_or_isRefused cause with
      ⟨fault, unparsed, rfl⟩ | ⟨declarations, parsed, refused⟩
    · cases fault with
      | broken line missing => exact Or.inl rfl
      | tooDeep => exact Or.inr (.nested starts read unparsed)
    · exact Or.inr (.source told starts useful read parsed refused)
  · cases done

/-- Whether the store does not take the records of a crate. -/
def IsRejected (store : Store) (settings : Settings) (files : FileTree)
    (directory : DiskPath) (fault : Fault) : Prop :=
  ∃ crate records world error,
    world.files = files ∧
      prepared settings files directory = .ok (crate, records) ∧
      (Job.on (store.writeCrate crate records) world).1 = .error error ∧
      fault = .store error

/-! ## What indexing a crate leaves -/

/-- A crate that is indexed has a manifest. -/
theorem exists_read_of_on_indexCrate
    {locations : List Location}
    (done : Job.on (indexCrate store settings directory) world =
      (.ok locations, later)) :
    ∃ crate, Manifest.read world.files directory = .ok crate := by
  rcases on_indexCrate store settings directory world with ⟨log, does⟩
  rw [done] at does
  cases ready : prepared settings world.files directory with
  | error fault =>
      rw [ready] at does
      cases does
  | ok known => exact ⟨known.1, (of_prepared ready).1⟩

/-- A crate fails before its records are written, and nothing is changed, or
the store does not take them. -/
theorem cases_of_on_indexCrate
    (failed : Job.on (indexCrate store settings directory) world =
      (.error fault, later)) :
    prepared settings world.files directory = .error fault ∧
        world.IsAlike later ∨
      IsRejected store settings world.files directory fault := by
  rcases on_indexCrate store settings directory world with ⟨log, done⟩
  rw [failed] at done
  cases ready : prepared settings world.files directory with
  | error other =>
      rw [ready, Prod.mk.injEq] at done
      rcases done with ⟨same, rfl⟩
      cases same
      exact Or.inl ⟨rfl, rfl, rfl, rfl, rfl⟩
  | ok known =>
      rcases known with ⟨crate, records⟩
      rw [ready] at done
      dsimp only at done
      rw [write, Job.on_adapt, Prod.mk.injEq] at done
      rcases mapError_eq_error_iff.1 done.1.symm with
        ⟨error, refused, rfl⟩
      exact Or.inr ⟨crate, records, { world with log }, error, rfl, ready,
        refused, rfl⟩

/-- A crate with a record that cannot be packed is not reported, and nothing
is changed. -/
theorem on_indexCrate_of_not_fits
    (store : Store)
    (ready : prepared settings world.files directory = .ok (crate, records))
    (unfit : ∃ record ∈ records, record.toValue.fits = false) :
    ∃ error later,
      Job.on (indexCrate store settings directory) world =
          (.error (.store error), later) ∧
        (Fault.store error).isForeseen = false ∧
        world.IsAlike later := by
  rcases on_indexCrate store settings directory world with ⟨log, done⟩
  rw [ready] at done
  rcases store.on_writeCrate_of_not_fits { world with log } unfit with
    ⟨error, later, refused, unforeseen, alike⟩
  have silent : world.IsAlike { world with log } := ⟨rfl, rfl, rfl, rfl⟩
  refine ⟨error, later, done.trans ?_, unforeseen, silent.trans alike⟩
  dsimp only
  rw [write, Job.on_adapt, refused]
  rfl

theorem isDeaf_indexCrate
    (store : Store)
    (settings : Settings)
    (directory : DiskPath) :
    (indexCrate store settings directory).IsDeaf := by
  intro first second alike
  rcases on_indexCrate store settings directory first with ⟨log, done⟩
  rcases on_indexCrate store settings directory second with
    ⟨alsoLog, alsoDone⟩
  have same :
      prepared settings first.files directory =
        prepared settings second.files directory := by
    rw [alike.files_eq]
  rw [done, alsoDone, same]
  have silent : World.IsAlike { first with log }
      { second with log := alsoLog } :=
    ⟨alike.files_eq, alike.environment_eq, alike.known_eq,
      alike.keywords_eq⟩
  cases prepared settings second.files directory with
  | error fault => exact ⟨rfl, silent⟩
  | ok known =>
      have deaf := (store.isDeaf_writeCrate known.1 known.2).adapt Fault.store
      exact deaf _ _ silent

/-- What is the same outside of a store. -/
abbrev SparesOutside (store : Store) (start files : FileTree) : Prop :=
  FileTree.Spares (fun address => ¬ store.root.settled <+: address) start
    files

/-- Indexing a crate whose directory is in the store changes no file outside
of the store. -/
theorem spares_indexCrate
    (settings : Settings)
    {start : FileTree}
    (inside : ∀ crate, Manifest.read world.files directory = .ok crate →
      store.IsInside crate)
    (spares : SparesOutside store start world.files) :
    SparesOutside store start
      (Job.on (indexCrate store settings directory) world).2.files := by
  rcases on_indexCrate store settings directory world with ⟨log, done⟩
  rw [done]
  cases ready : prepared settings world.files directory with
  | error fault => exact spares
  | ok known =>
      rcases known with ⟨crate, records⟩
      rcases of_prepared ready with ⟨read, ofCrate⟩
      have written :
          FileTree.Spares (store.IsSpared crate) world.files
            (Job.on (store.writeCrate crate records)
              { world with log }).2.files :=
        Store.preserves_writeCrate ofCrate { world with log }
          (FileTree.Spares.refl spares.grounded)
      have afar : SparesOutside store world.files
          (Job.on (store.writeCrate crate records)
            { world with log }).2.files :=
        written.mono fun address outside =>
          (inside crate read).isSpared_of_outside outside
      dsimp only
      rw [write, Job.on_adapt]
      exact spares.trans afar

end Indexing

end CrateShelf
