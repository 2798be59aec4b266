import CrateShelf.Proofs.Indexing.Crate
import CrateShelf.Proofs.Tree.Nesting

/-!
# Indexing a registry

The crates of a registry are indexed one after the other.  Each of them comes
to something: it is indexed, or it fails in a way that is reported, unless it
stops everything.

Main statement: indexing a registry either reports every directory once and
in order, and leaves what indexing only the crates that succeed would leave;
or it stops at a directory whose crate is hindered or not taken by the store.
-/

namespace CrateShelf

namespace Indexing

section

variable [Depths]

/-! ## What becomes of crates -/

/-- A directory and the crate that was indexed there, or why none was. -/
abbrev Outcome := DiskPath × Except Fault CrateId

/-- The crate that was indexed, if one was. -/
def indexed? : Outcome → Option CrateId
  | (_, .ok crate) => some crate
  | (_, .error _) => none

/-- The directory and the fault, if no crate was indexed. -/
def failed? : Outcome → Option (DiskPath × Fault)
  | (_, .ok _) => none
  | (directory, .error fault) => some (directory, fault)

/-- The directories whose crates were indexed. -/
def succeeded (outcomes : List Outcome) : List DiskPath :=
  (outcomes.filter fun outcome => (indexed? outcome).isSome).map Prod.fst

namespace Report

/-- The report of what became of crates. -/
def ofOutcomes (outcomes : List Outcome) : Report where
  indexed := outcomes.filterMap indexed?
  failed := outcomes.filterMap failed?

/-- A report with an outcome before it. -/
def after (outcome : Outcome) (more : Report) : Report :=
  match outcome with
  | (_, .ok crate) => { more with indexed := crate :: more.indexed }
  | (directory, .error fault) =>
    { more with failed := (directory, fault) :: more.failed }

omit [Depths] in
theorem ofOutcomes_cons (outcome : Outcome) (outcomes : List Outcome) :
    ofOutcomes (outcome :: outcomes) = (ofOutcomes outcomes).after outcome := by
  rcases outcome with ⟨directory, _ | _⟩
  · rfl
  · rfl

omit [Depths] in
/-- Leaving out all failures leaves nothing but the crates that were
indexed. -/
theorem ofOutcomes_filter (outcomes : List Outcome) :
    ofOutcomes (outcomes.filter fun outcome => (indexed? outcome).isSome) =
      { indexed := (ofOutcomes outcomes).indexed } := by
  induction outcomes with
  | nil => rfl
  | cons outcome outcomes inductionStep =>
      rcases outcome with ⟨directory, fault | crate⟩
      · rw [List.filter_cons_of_neg (by simp [indexed?]), inductionStep]
        rfl
      · rw [List.filter_cons_of_pos (by simp [indexed?]), ofOutcomes_cons,
          inductionStep]
        rfl

omit [Depths] in
theorem mem_failed_ofOutcomes
    {outcomes : List Outcome}
    {directory : DiskPath}
    {fault : Fault}
    (member : (directory, .error fault) ∈ outcomes) :
    (directory, fault) ∈ (ofOutcomes outcomes).failed :=
  List.mem_filterMap.2 ⟨_, member, rfl⟩

end Report

/-- Whether the crate in a directory comes to something that is reported. -/
inductive Becomes (store : Store) (settings : Settings) (world : World) :
    Outcome → World → Prop where
  | indexed {later : World} {directory : DiskPath}
      {locations : List Location} {crate : CrateId}
      (indexes : Job.on (indexCrate store settings directory) world =
        (.ok locations, later))
      (tells : Manifest.read later.files directory = .ok crate) :
    Becomes store settings world (directory, .ok crate) later
  | failed {later : World} {directory : DiskPath} {fault : Fault}
      (fails : Job.on (indexCrate store settings directory) world =
        (.error fault, later))
      (foreseen : fault.isForeseen = true) :
    Becomes store settings world (directory, .error fault) later

/-- Whether the crate in a directory stops everything. -/
inductive Stops (store : Store) (settings : Settings) (world : World)
    (directory : DiskPath) : Fault → Prop where
  | unforeseen {later : World} {fault : Fault}
      (fails : Job.on (indexCrate store settings directory) world =
        (.error fault, later))
      (unforeseen : fault.isForeseen = false) :
    Stops store settings world directory fault
  /-- The manifest is gone once the records are written. -/
  | lost {later : World} {locations : List Location} {error : ManifestError}
      (indexes : Job.on (indexCrate store settings directory) world =
        (.ok locations, later))
      (untold : Manifest.read later.files directory = .error error) :
    Stops store settings world directory (.manifest error)

/-- Whether crates come to something one after the other; what is said makes
no difference. -/
inductive Indexes (store : Store) (settings : Settings) :
    World → List Outcome → World → Prop where
  | done {world later : World}
      (alike : world.IsAlike later) :
    Indexes store settings world [] later
  | next {world middle later : World} {outcome : Outcome}
      {outcomes : List Outcome}
      (becomes : Becomes store settings world outcome middle)
      (rest : Indexes store settings middle outcomes later) :
    Indexes store settings world (outcome :: outcomes) later

/-- Whether indexing comes to a directory that stops everything. -/
def Halts (store : Store) (settings : Settings) (world : World)
    (directories : List DiskPath) (fault : Fault) : Prop :=
  ∃ outcomes middle directory rest,
    Indexes store settings world outcomes middle ∧
      outcomes.map Prod.fst ++ directory :: rest = directories ∧
      Stops store settings middle directory fault

variable
    {store : Store}
    {settings : Settings}
    {world other later : World}
    {directory registry : DiskPath}
    {directories : List DiskPath}
    {outcome : Outcome}
    {outcomes : List Outcome}
    {fault : Fault}
    {crate : CrateId}

/-! ## One crate -/

theorem becomes_or_stops
    (store : Store)
    (settings : Settings)
    (world : World)
    (directory : DiskPath) :
    (∃ result later,
      Becomes store settings world (directory, result) later) ∨
      ∃ fault, Stops store settings world directory fault := by
  cases ended : Job.on (indexCrate store settings directory) world with
  | mk result later =>
      cases result with
      | ok locations =>
          cases told : Manifest.read later.files directory with
          | ok crate => exact Or.inl ⟨_, _, .indexed ended told⟩
          | error error => exact Or.inr ⟨_, .lost ended told⟩
      | error fault =>
          cases foreseen : fault.isForeseen with
          | true => exact Or.inl ⟨_, _, .failed ended foreseen⟩
          | false => exact Or.inr ⟨_, .unforeseen ended foreseen⟩

theorem Becomes.exists_of_isAlike
    (becomes : Becomes store settings world outcome later)
    (alike : world.IsAlike other) :
    ∃ next,
      Becomes store settings other outcome next ∧ later.IsAlike next := by
  cases becomes with
  | indexed indexes tells =>
      rcases (isDeaf_indexCrate store settings _).exists_on alike indexes with
        ⟨next, done, alsoAlike⟩
      rw [alsoAlike.files_eq] at tells
      exact ⟨next, .indexed done tells, alsoAlike⟩
  | failed fails foreseen =>
      rcases (isDeaf_indexCrate store settings _).exists_on alike fails with
        ⟨next, done, alsoAlike⟩
      exact ⟨next, .failed done foreseen, alsoAlike⟩

theorem Stops.of_isAlike
    (stops : Stops store settings world directory fault)
    (alike : world.IsAlike other) :
    Stops store settings other directory fault := by
  cases stops with
  | unforeseen fails unforeseen =>
      rcases (isDeaf_indexCrate store settings _).exists_on alike fails with
        ⟨next, done, _⟩
      exact .unforeseen done unforeseen
  | lost indexes untold =>
      rcases (isDeaf_indexCrate store settings _).exists_on alike indexes with
        ⟨next, done, alsoAlike⟩
      rw [alsoAlike.files_eq] at untold
      exact .lost done untold

section

variable
    {total number : Nat}
    {rest : List DiskPath}
    {Done : Report → World → Prop}
    {Failed : Fault → Prop}

/-- What becomes of a crate is put before what becomes of the others. -/
theorem ends_indexAll_of_becomes
    (becomes : Becomes store settings world outcome later)
    (then_ : ∀ next, later.IsAlike next →
      (indexAll store settings total (number + 1) rest).Ends next
        (fun report final => Done (report.after outcome) final) Failed) :
    (indexAll store settings total number (outcome.1 :: rest)).Ends world
      Done Failed := by
  rw [indexAll]
  apply Job.ends_print_bind
  intro start alike
  rcases becomes.exists_of_isAlike alike with ⟨middle, becomes, alsoAlike⟩
  apply Job.ends_bind_of_ok (Job.on_attempt _ _)
  cases becomes with
  | @indexed _ directory _ crate indexes tells =>
      rw [indexes]
      have told : Job.on (readManifest directory) middle =
          (.ok crate, middle) := by
        rw [on_readManifest, tells]
        rfl
      apply Job.ends_bind_of_ok told
      refine (then_ middle alsoAlike).bind ?_
      intro more final done
      exact done
  | failed fails foreseen =>
      rw [fails]
      dsimp only
      rw [if_pos foreseen]
      apply Job.ends_note_bind
      intro next silent
      refine (then_ next (alsoAlike.trans silent)).bind ?_
      intro more final done
      exact done

theorem ends_indexAll_of_stops
    (stops : Stops store settings world directory fault)
    (failed : Failed fault) :
    (indexAll store settings total number (directory :: rest)).Ends world
      Done Failed := by
  rw [indexAll]
  apply Job.ends_print_bind
  intro start alike
  apply Job.ends_bind_of_ok (Job.on_attempt _ _)
  cases stops.of_isAlike alike with
  | unforeseen fails unforeseen =>
      rw [fails]
      dsimp only
      rw [unforeseen]
      exact failed
  | @lost middle _ error indexes untold =>
      rw [indexes]
      have told : Job.on (readManifest directory) middle =
          (.error (.manifest error), middle) := by
        rw [on_readManifest, untold]
        rfl
      exact Job.ends_bind_of_error told failed

end

/-! ## One crate after the other -/

/-- What has been said before makes no difference. -/
theorem Indexes.of_isAlike
    (indexes : Indexes store settings world outcomes later)
    (alike : world.IsAlike other) :
    Indexes store settings other outcomes later := by
  induction indexes generalizing other with
  | done same => exact .done (alike.symm.trans same)
  | next becomes _ inductionStep =>
      rcases becomes.exists_of_isAlike alike with ⟨next, becomes, alsoAlike⟩
      exact .next becomes (inductionStep alsoAlike)

/-- Indexing crates reports what becomes of each, or comes to one that stops
everything. -/
theorem ends_indexAll
    (store : Store)
    (settings : Settings)
    (total number : Nat)
    (directories : List DiskPath)
    (world : World) :
    (indexAll store settings total number directories).Ends world
      (fun report later => ∃ outcomes,
        Indexes store settings world outcomes later ∧
          outcomes.map Prod.fst = directories ∧
          report = .ofOutcomes outcomes)
      (Halts store settings world directories) := by
  induction directories generalizing number world with
  | nil => exact ⟨[], .done (World.IsAlike.refl world), rfl, rfl⟩
  | cons directory rest inductionStep =>
      rcases becomes_or_stops store settings world directory with
        ⟨result, middle, becomes⟩ | ⟨fault, stops⟩
      · apply ends_indexAll_of_becomes becomes
        intro next alike
        refine ((inductionStep (number + 1) next).mono ?_).of_failed ?_
        · rintro more later ⟨outcomes, indexes, rfl, rfl⟩
          exact ⟨(directory, result) :: outcomes,
            .next becomes (indexes.of_isAlike alike.symm), rfl,
            (Report.ofOutcomes_cons _ _).symm⟩
        · rintro fault ⟨outcomes, last, stopped, others, indexes, rfl, stops⟩
          exact ⟨(directory, result) :: outcomes, last, stopped, others,
            .next becomes (indexes.of_isAlike alike.symm), rfl, stops⟩
      · exact ends_indexAll_of_stops stops
          ⟨[], world, directory, rest, .done (World.IsAlike.refl world), rfl,
            stops⟩

/-- Where each crate comes to something, indexing them reports it. -/
theorem Indexes.ends_indexAll
    (indexes : Indexes store settings world outcomes later)
    (total number : Nat) :
    (indexAll store settings total number (outcomes.map Prod.fst)).Ends world
      (fun report final =>
        report = .ofOutcomes outcomes ∧ later.IsAlike final)
      (fun _ => False) := by
  induction outcomes generalizing world number with
  | nil =>
      cases indexes with
      | done alike => exact ⟨rfl, alike.symm⟩
  | cons outcome outcomes inductionStep =>
      cases indexes with
      | next becomes rest =>
          apply ends_indexAll_of_becomes becomes
          intro next alike
          refine (inductionStep (rest.of_isAlike alike) (number + 1)).mono ?_
          rintro more final ⟨rfl, same⟩
          exact ⟨(Report.ofOutcomes_cons _ _).symm, same⟩

theorem Indexes.isForeseen_of_mem
    (indexes : Indexes store settings world outcomes later) :
    ∀ outcome ∈ outcomes, ∀ fault, outcome.2 = .error fault →
      fault.isForeseen = true := by
  induction indexes with
  | done => exact List.forall_mem_nil _
  | next becomes _ inductionStep =>
      refine List.forall_mem_cons.2 ⟨?_, inductionStep⟩
      cases becomes with
      | indexed _ _ => rintro _ ⟨⟩
      | failed _ foreseen =>
          rintro _ ⟨⟩
          exact foreseen

/-- Crates that fail before their records are written can be left out. -/
theorem Indexes.filter
    (indexes : Indexes store settings world outcomes later)
    {keeps : Outcome → Bool}
    (dropped : ∀ outcome ∈ outcomes, keeps outcome = false →
      ∃ fault, outcome.2 = .error fault ∧ ∀ error, fault ≠ .store error) :
    Indexes store settings world (outcomes.filter keeps) later := by
  induction indexes with
  | done alike => exact .done alike
  | @next world middle later outcome outcomes becomes _ inductionStep =>
      rw [List.forall_mem_cons] at dropped
      have rest := inductionStep dropped.2
      cases kept : keeps outcome with
      | true =>
          rw [List.filter_cons_of_pos kept]
          exact .next becomes rest
      | false =>
          rw [List.filter_cons_of_neg (by simp [kept])]
          rcases dropped.1 kept with ⟨fault, same, early⟩
          cases becomes with
          | indexed _ _ => cases same
          | failed fails _ =>
              cases same
              rcases cases_of_on_indexCrate fails with
                ⟨_, alike⟩ | ⟨_, _, _, error, _, _, _, late⟩
              · exact rest.of_isAlike alike.symm
              · exact absurd late (early error)

/-! ## Manifests outside of the store -/

/-- Whether no crate that is indexed changes the manifest of the crate in a
directory, which is text, and neither does this crate. -/
structure StandsApart (store : Store) (files : FileTree)
    (directory : DiskPath) : Prop where
  plain : ".." ∉ directory.parts
  outside : ¬ store.root.settled <+: (Manifest.fileIn directory).settled
  inside : ∀ crate, Manifest.read files directory = .ok crate →
    store.IsInside crate
  textual : ∀ bytes, files.read (Manifest.fileIn directory) = .ok bytes →
    ∃ text, Bytes.decodeText bytes = .ok text

variable {start files : FileTree}

theorem StandsApart.read_fileIn_iff
    {bytes : Bytes}
    (apart : StandsApart store start directory)
    (grounded : start.IsGrounded)
    (spares : SparesOutside store start files) :
    files.read (Manifest.fileIn directory) = .ok bytes ↔
      start.read (Manifest.fileIn directory) = .ok bytes := by
  apply spares.read_eq_ok_iff grounded _ apart.outside
  rw [fileIn_eq_down, DiskPath.down, List.mem_append, not_or]
  exact ⟨apart.plain, by decide⟩

theorem StandsApart.read_iff
    (apart : StandsApart store start directory)
    (grounded : start.IsGrounded)
    (spares : SparesOutside store start files) :
    Manifest.read files directory = .ok crate ↔
      Manifest.read start directory = .ok crate := by
  unfold Manifest.read
  simp only [bind_eq_ok_iff, mapError_eq_ok_iff,
    apart.read_fileIn_iff grounded spares]

/-- What stands apart does so as long as nothing outside of the store
changes. -/
theorem StandsApart.of_spares
    (apart : StandsApart store start directory)
    (grounded : start.IsGrounded)
    (spares : SparesOutside store start files) :
    StandsApart store files directory where
  plain := apart.plain
  outside := apart.outside
  inside := fun crate read =>
    apart.inside crate ((apart.read_iff grounded spares).1 read)
  textual := fun bytes read =>
    apart.textual bytes ((apart.read_fileIn_iff grounded spares).1 read)

/-- A crate that stands apart changes nothing outside of the store, and its
manifest says what it said at the start. -/
theorem Becomes.spares
    (becomes : Becomes store settings world outcome later)
    (grounded : start.IsGrounded)
    (apart : StandsApart store start outcome.1)
    (spares : SparesOutside store start world.files) :
    SparesOutside store start later.files ∧
      ∀ crate, outcome.2 = .ok crate →
        Manifest.read start outcome.1 = .ok crate := by
  have kept :=
    spares_indexCrate settings (apart.of_spares grounded spares).inside spares
  cases becomes with
  | indexed indexes tells =>
      rw [indexes] at kept
      refine ⟨kept, ?_⟩
      rintro _ ⟨⟩
      exact (apart.read_iff grounded kept).1 tells
  | failed fails _ =>
      rw [fails] at kept
      refine ⟨kept, ?_⟩
      rintro _ ⟨⟩

theorem Indexes.spares
    (indexes : Indexes store settings world outcomes later)
    (grounded : start.IsGrounded)
    (apart : ∀ outcome ∈ outcomes, StandsApart store start outcome.1)
    (spares : SparesOutside store start world.files) :
    SparesOutside store start later.files ∧
      ∀ outcome ∈ outcomes, ∀ crate, outcome.2 = .ok crate →
        Manifest.read start outcome.1 = .ok crate := by
  induction indexes with
  | done alike =>
      rw [alike.files_eq] at spares
      exact ⟨spares, List.forall_mem_nil _⟩
  | next becomes _ inductionStep =>
      rw [List.forall_mem_cons] at apart
      rcases becomes.spares grounded apart.1 spares with ⟨between, tells⟩
      rcases inductionStep apart.2 between with ⟨kept, others⟩
      exact ⟨kept, List.forall_mem_cons.2 ⟨tells, others⟩⟩

/-- A crate that stands apart stops everything only if it is hindered or the
store does not take it. -/
theorem Stops.isHindered
    (stops : Stops store settings world directory fault)
    (grounded : start.IsGrounded)
    (apart : StandsApart store start directory)
    (valid : directory.parts.any FileTree.isInvalid = false)
    (spares : SparesOutside store start world.files) :
    fault.isForeseen = false ∧
      (IsHindered settings world.files directory fault ∨
        IsRejected store settings world.files directory fault) := by
  have alsoApart := apart.of_spares grounded spares
  cases stops with
  | unforeseen fails unforeseen =>
      refine ⟨unforeseen, ?_⟩
      rcases cases_of_on_indexCrate fails with ⟨failed, _⟩ | rejected
      · rcases isForeseen_or_isHindered valid alsoApart.textual failed with
          foreseen | hindered
        · rw [unforeseen] at foreseen
          cases foreseen
        · exact Or.inl hindered
      · exact Or.inr rejected
  | lost indexes untold =>
      -- The manifest was there and is outside of what was written.
      have kept := spares_indexCrate settings alsoApart.inside spares
      rw [indexes] at kept
      rcases exists_read_of_on_indexCrate indexes with ⟨crate, read⟩
      have told := (apart.read_iff grounded kept).2
        ((apart.read_iff grounded spares).1 read)
      rw [told] at untold
      cases untold

/-! ## The directories of a registry -/

omit [Depths] in
theorem isDirectory_eq_true_iff :
    isDirectory files directory = true ↔
      files.isDirectory directory = .ok true := by
  unfold isDirectory
  cases files.isDirectory directory with
  | error fault => simp
  | ok flag => simp

omit [Depths] in
/-- The directory of a crate is two steps below that of the sources. -/
theorem of_mem_crateDirectories
    (member : directory ∈ crateDirectories files registry) :
    files.isDirectory directory = .ok true ∧
      ∃ index name, directory = (sourceRoot registry).down [index, name] := by
  unfold crateDirectories DiskPath.sort at member
  rw [(List.mergeSort_perm _ _).mem_iff, List.mem_flatMap] at member
  rcases member with ⟨above, indexed, member⟩
  rw [List.mem_filter] at indexed member
  rcases FileTree.exists_down_of_mem_list indexed.1 with ⟨index, rfl⟩
  rcases FileTree.exists_down_of_mem_list member.1 with ⟨name, rfl⟩
  refine ⟨isDirectory_eq_true_iff.1 member.2, index, name, ?_⟩
  simp [DiskPath.down]

omit [Depths] in
/-- What comes in order is not moved. -/
theorem crateDirectories_of_pairwise
    {listed : List DiskPath}
    (lists :
      ((files.list (sourceRoot registry)).filter
          (isDirectory files)).flatMap
        (fun path => (files.list path).filter (isDirectory files)) = listed)
    (ordered : listed.Pairwise (DiskPath.atMost · · = true)) :
    crateDirectories files registry = listed := by
  unfold crateDirectories DiskPath.sort
  dsimp only
  rw [lists]
  exact List.mergeSort_of_pairwise ordered

omit [Depths] in
/-- No directory comes twice. -/
theorem nodup_crateDirectories
    (sound : files.IsSound)
    (registry : DiskPath) :
    (crateDirectories files registry).Nodup := by
  unfold crateDirectories DiskPath.sort
  rw [(List.mergeSort_perm _ _).nodup_iff, List.nodup_flatMap]
  constructor
  · intro above _
    exact (sound.nodup_list above).filter _
  · refine ((sound.nodup_list _).filter _).imp ?_
    intro first second different directory member alsoMember
    rcases FileTree.exists_down_of_mem_list (List.mem_filter.1 member).1 with
      ⟨name, rfl⟩
    rcases FileTree.exists_down_of_mem_list
      (List.mem_filter.1 alsoMember).1 with ⟨other, same⟩
    apply different
    rcases first with ⟨root, parts⟩
    rcases second with ⟨otherRoot, otherParts⟩
    simp only [DiskPath.down, DiskPath.mk.injEq] at same
    rw [same.1, List.append_inj_left' same.2 rfl]

omit [Depths] in
/-- What is in the sources of a registry is outside of its own store. -/
theorem outside_of_mem_crateDirectories
    (member : directory ∈ crateDirectories files store.registry)
    (plain : ".." ∉ directory.parts) :
    ¬ store.root.settled <+: (Manifest.fileIn directory).settled := by
  rcases of_mem_crateDirectories member with ⟨_, index, name, rfl⟩
  have sources : sourceRoot store.registry = store.registry.down ["src"] :=
    DiskPath.child_of_not_mem _ (by decide) (by decide) (by decide)
  have documented : store.root = store.registry.down ["doc"] := by
    rw [Store.root, Store.docRoot,
      DiskPath.child_of_not_mem _ (by decide) (by decide) (by decide)]
  rw [sources] at plain ⊢
  have noWayBack : ".." ∉ ["src"] ++ ([index, name] ++ ["Cargo.toml"]) := by
    intro back
    apply plain
    rw [DiskPath.down_down, DiskPath.down, List.mem_append]
    rw [← List.append_assoc, List.mem_append] at back
    rcases back with inside | last
    · exact Or.inr inside
    · exact absurd last (by decide)
  rw [fileIn_eq_down, DiskPath.down_down, DiskPath.down_down, documented,
    FileTree.settled_down noWayBack, FileTree.settled_down (by decide),
    List.prefix_append_right_inj, List.singleton_append,
    List.cons_prefix_cons]
  exact fun below => absurd below.1 (by decide)

/-! ## Registries -/

theorem on_indexRegistry
    (store : Store)
    (settings : Settings)
    (registry : DiskPath)
    (world : World) :
    Job.on (indexRegistry store settings registry) world =
      Job.on (indexAll store settings
        (crateDirectories world.files registry).length 1
        (crateDirectories world.files registry)) world :=
  Job.on_bind_ok (Job.on_get world)

/-- A crate that fails before its records are written, which is not foreseen,
stops everything. -/
theorem stops_of_prepared
    (failed : prepared settings world.files directory = .error fault)
    (unforeseen : fault.isForeseen = false) :
    Stops store settings world directory fault := by
  rcases on_indexCrate store settings directory world with ⟨log, fails⟩
  rw [failed] at fails
  exact .unforeseen fails unforeseen

/-- Where the first crate stops everything, nothing is reported. -/
theorem on_indexRegistry_ne_ok
    {rest : List DiskPath}
    (first : crateDirectories world.files registry = directory :: rest)
    (stops : Stops store settings world directory fault)
    (report : Report)
    (later : World) :
    Job.on (indexRegistry store settings registry) world ≠
      (.ok report, later) := by
  intro run
  rw [on_indexRegistry, first] at run
  have halts :
      (indexAll store settings (directory :: rest).length 1
        (directory :: rest)).Ends world (fun _ _ => False) (fun _ => True) :=
    ends_indexAll_of_stops stops trivial
  unfold Job.Ends at halts
  rw [run] at halts
  exact halts

/-- If no crate failed in the store, those that succeeded would do so without
the others. -/
theorem Indexes.ends_succeeded
    (indexes : Indexes store settings world outcomes later)
    (early : ∀ directory error,
      (directory, .store error) ∉ (Report.ofOutcomes outcomes).failed)
    (total number : Nat) :
    (indexAll store settings total number (succeeded outcomes)).Ends world
      (fun report final =>
        report = { indexed := (Report.ofOutcomes outcomes).indexed } ∧
          final.files = later.files ∧ final.known? = later.known?)
      (fun _ => False) := by
  have kept :
      Indexes store settings world
        (outcomes.filter fun outcome => (indexed? outcome).isSome) later := by
    apply indexes.filter
    rintro ⟨directory, fault | crate⟩ member left
    · refine ⟨fault, rfl, ?_⟩
      rintro error rfl
      exact early directory error (Report.mem_failed_ofOutcomes member)
    · cases left
  refine (kept.ends_indexAll total number).mono ?_
  rintro report final ⟨rfl, alike⟩
  exact ⟨Report.ofOutcomes_filter outcomes, alike.files_eq.symm,
    alike.known_eq.symm⟩

/-- Indexing halts only at a crate that is hindered or that the store does not
take. -/
theorem Halts.exists_isHindered
    (halts : Halts store settings world directories fault)
    (grounded : world.files.IsGrounded)
    (apart : ∀ directory ∈ directories,
      StandsApart store world.files directory)
    (valid : ∀ directory ∈ directories,
      directory.parts.any FileTree.isInvalid = false) :
    fault.isForeseen = false ∧
      ∃ directory ∈ directories, ∃ files,
        SparesOutside store world.files files ∧
          (IsHindered settings files directory fault ∨
            IsRejected store settings files directory fault) := by
  rcases halts with ⟨outcomes, middle, directory, rest, indexes, rfl, stops⟩
  rw [List.forall_mem_append, List.forall_mem_cons] at apart valid
  rcases indexes.spares grounded (List.forall_mem_map.1 apart.1)
    (FileTree.Spares.refl grounded) with ⟨kept, _⟩
  rcases stops.isHindered grounded apart.2.1 valid.2.1 kept with
    ⟨unforeseen, cause⟩
  exact ⟨unforeseen, directory,
    List.mem_append_right _ List.mem_cons_self, middle.files, kept, cause⟩

/--
No directory comes twice.  A crate that fails before its records are written
leaves the files and what is known of the store as they were, and so does one
with a record that cannot be packed, whose failure is not foreseen.  Indexing
a registry either reports every directory once and in order, as the crate that
its manifest tells or as a failure that is foreseen; then, if none failed in
the store, indexing only the crates that succeeded leaves the same files and
the same store.  Or it stops at a directory whose crate is hindered or which
the store does not take.
-/
theorem reports_all_or_isHindered
    (store : Store)
    (settings : Settings)
    (registry : DiskPath)
    (world : World)
    (grounded : world.files.IsGrounded)
    (apart : ∀ directory ∈ crateDirectories world.files registry,
      StandsApart store world.files directory) :
    (crateDirectories world.files registry).Nodup ∧
    (∀ (directory : DiskPath) (start later : World) (fault : Fault),
      Job.on (indexCrate store settings directory) start =
          (.error fault, later) →
        (∀ error, fault ≠ .store error) →
          later.files = start.files ∧ later.known? = start.known?) ∧
    (∀ (directory : DiskPath) (start : World) (crate : CrateId)
      (records : List Record),
      prepared settings start.files directory = .ok (crate, records) →
        (∃ record ∈ records, record.toValue.fits = false) →
          ∃ error later,
            Job.on (indexCrate store settings directory) start =
                (.error (.store error), later) ∧
              (Fault.store error).isForeseen = false ∧
              later.files = start.files ∧ later.known? = start.known?) ∧
    (indexRegistry store settings registry).Ends world
      (fun report later => ∃ outcomes : List Outcome,
        outcomes.map Prod.fst = crateDirectories world.files registry ∧
        report = .ofOutcomes outcomes ∧
        Indexes store settings world outcomes later ∧
        (∀ directory crate, (directory, .ok crate) ∈ outcomes →
          Manifest.read world.files directory = .ok crate) ∧
        (∀ directory fault, (directory, .error fault) ∈ outcomes →
          fault.isForeseen = true) ∧
        ((∀ directory error, (directory, .store error) ∉ report.failed) →
          ∀ total number,
            (indexAll store settings total number (succeeded outcomes)).Ends
              world
              (fun others final =>
                others = { indexed := report.indexed } ∧
                  final.files = later.files ∧ final.known? = later.known?)
              (fun _ => False)))
      (fun fault =>
        fault.isForeseen = false ∧
        ∃ directory ∈ crateDirectories world.files registry, ∃ files,
          SparesOutside store world.files files ∧
            (IsHindered settings files directory fault ∨
              IsRejected store settings files directory fault)) := by
  refine ⟨nodup_crateDirectories grounded.sound registry, ?_, ?_, ?_⟩
  · intro directory start later fault fails early
    rcases cases_of_on_indexCrate fails with
      ⟨_, alike⟩ | ⟨_, _, _, error, _, _, _, late⟩
    · exact ⟨alike.files_eq.symm, alike.known_eq.symm⟩
    · exact absurd late (early error)
  · intro directory start crate records ready unfit
    rcases on_indexCrate_of_not_fits store ready unfit with
      ⟨error, later, fails, unforeseen, alike⟩
    exact ⟨error, later, fails, unforeseen, alike.files_eq.symm,
      alike.known_eq.symm⟩
  · unfold Job.Ends
    rw [on_indexRegistry]
    refine ((ends_indexAll store settings _ _ _ world).mono ?_).of_failed ?_
    · rintro report later ⟨outcomes, indexes, whole, rfl⟩
      rw [← whole, List.forall_mem_map] at apart
      have kept := indexes.spares grounded apart (FileTree.Spares.refl grounded)
      exact ⟨outcomes, whole, rfl, indexes,
        fun directory crate member => kept.2 _ member crate rfl,
        fun directory fault member =>
          indexes.isForeseen_of_mem _ member fault rfl,
        indexes.ends_succeeded⟩
    · intro fault halts
      apply halts.exists_isHindered grounded apart
      exact fun directory member =>
        FileTree.valid_of_isDirectory (of_mem_crateDirectories member).1

/-! ## A registry of two crates -/

/-- A registry in which one crate has a manifest but no source, and another
has neither. -/
def bareRegistry (manifest : String) : FileTree where
  entries :=
    [ (["reg"], .directory),
      (["reg", "src"], .directory),
      (["reg", "src", "i"], .directory),
      (["reg", "src", "i", "a-1"], .directory),
      (["reg", "src", "i", "a-1", "Cargo.toml"],
        .file (Bytes.ofText manifest)),
      (["reg", "src", "i", "b-1"], .directory) ]

/-- The directory with the manifest. -/
def sourceless : DiskPath := ⟨"", ["reg", "src", "i", "a-1"]⟩

/-- The directory without one. -/
def manifestless : DiskPath := ⟨"", ["reg", "src", "i", "b-1"]⟩

omit [Depths] in
theorem isGrounded_bareRegistry (manifest : String) :
    (bareRegistry manifest).IsGrounded := by
  apply FileTree.isGrounded_of_held
  · change ([["reg"], ["reg", "src"], ["reg", "src", "i"],
      ["reg", "src", "i", "a-1"], ["reg", "src", "i", "a-1", "Cargo.toml"],
      ["reg", "src", "i", "b-1"]] : List Address).Nodup
    decide
  · simp [bareRegistry]
  · simp only [bareRegistry, List.map_cons, List.map_nil,
      List.forall_mem_cons]
    exact ⟨rfl, rfl, rfl, rfl, rfl, rfl, List.forall_mem_nil _⟩
  · rfl

omit [Depths] in
theorem crateDirectories_bareRegistry (manifest : String) :
    crateDirectories (bareRegistry manifest) Store.sampleStore.registry =
      [sourceless, manifestless] :=
  crateDirectories_of_pairwise rfl (by decide)

omit [Depths] in
theorem read_sourceless (manifest : String) :
    (bareRegistry manifest).read (Manifest.fileIn sourceless) =
      .ok (Bytes.ofText manifest) := rfl

omit [Depths] in
theorem read_manifestless (manifest : String) :
    (bareRegistry manifest).read (Manifest.fileIn manifestless) =
      .error { cause := .missing, path := Manifest.fileIn manifestless } := rfl

theorem standsApart_bareRegistry
    {manifest : String}
    (inside : ∀ crate,
      Manifest.read (bareRegistry manifest) sourceless = .ok crate →
        Store.sampleStore.IsInside crate) :
    ∀ directory ∈
        crateDirectories (bareRegistry manifest) Store.sampleStore.registry,
      StandsApart Store.sampleStore (bareRegistry manifest) directory := by
  intro directory member
  have outside := outside_of_mem_crateDirectories member
  rw [crateDirectories_bareRegistry, List.mem_pair] at member
  rcases member with rfl | rfl
  · refine ⟨by decide, outside (by decide), inside, ?_⟩
    intro bytes read
    rw [read_sourceless] at read
    cases read
    exact ⟨manifest, Bytes.decodeText_ofText manifest⟩
  · refine ⟨by decide, outside (by decide), ?_, ?_⟩
    · intro crate read
      rcases bind_eq_ok_iff.1 read with ⟨bytes, readable, _⟩
      rw [read_manifestless] at readable
      cases readable
    · intro bytes read
      rw [read_manifestless] at read
      cases read

/-- A manifest with a name and a version. -/
def plainManifest : String := "[package]\nname = 'a'\nversion = '1'\n"

/-- The crate that the manifest tells. -/
def plainCrate : CrateId := ⟨.text "a", .text "1"⟩

omit [Depths] in
theorem document_plainManifest (limits : Depths) :
    Toml.document plainManifest = .error .tooDeep ∨
      ∃ table, Toml.document plainManifest = .ok table ∧
        ∀ file, Manifest.crateOf file table = .ok plainCrate := by
  obtain ⟨_, _, _, depth, _, _, _, _⟩ := limits
  cases depth with
  | zero => exact Or.inl rfl
  | succ depth => exact Or.inr ⟨_, rfl, fun _ => rfl⟩

/-- The manifest is read, unless texts are nested too deeply in it. -/
theorem read_plainManifest
    (read : files.read (Manifest.fileIn directory) =
      .ok (Bytes.ofText plainManifest)) :
    Manifest.read files directory = .ok plainCrate ∨
      Manifest.read files directory = .error (.meaningless .tooDeep) := by
  unfold Manifest.read
  dsimp only
  rw [read]
  simp only [Except.mapError, ok_bind, Bytes.decodeText_ofText]
  rcases document_plainManifest ‹Depths› with deep | ⟨table, told, makes⟩
  · rw [deep]
    exact Or.inr rfl
  · rw [told]
    exact Or.inl (makes _)

theorem isInside_of_read_plainManifest
    (read : files.read (Manifest.fileIn directory) =
      .ok (Bytes.ofText plainManifest))
    (tells : Manifest.read files directory = .ok crate) :
    Store.sampleStore.IsInside crate := by
  rcases read_plainManifest read with told | untold
  · rw [told] at tells
    cases tells
    exact Store.isInside_of_not_mem (by decide)
  · rw [untold] at tells
    cases tells

end

attribute [local instance] Depths.usual in
theorem reports_all_bareRegistry :
    (∀ directory ∈ crateDirectories (bareRegistry plainManifest)
        Store.sampleStore.registry,
      StandsApart Store.sampleStore (bareRegistry plainManifest)
        directory) ∧
      ∃ report later, ∃ outcomes : List Outcome,
        Job.on (indexRegistry Store.sampleStore {}
            Store.sampleStore.registry)
          { files := bareRegistry plainManifest } = (.ok report, later) ∧
        report = .ofOutcomes outcomes ∧
        outcomes.map Prod.fst = [sourceless, manifestless] ∧
        ∀ directory fault, (directory, .error fault) ∈ outcomes →
          fault.isForeseen = true := by
  have apart :
      ∀ directory ∈ crateDirectories (bareRegistry plainManifest)
          Store.sampleStore.registry,
        StandsApart Store.sampleStore (bareRegistry plainManifest)
          directory := by
    apply standsApart_bareRegistry
    intro crate read
    exact isInside_of_read_plainManifest (read_sourceless _) read
  refine ⟨apart, ?_⟩
  have reports :=
    (reports_all_or_isHindered Store.sampleStore {}
      Store.sampleStore.registry { files := bareRegistry plainManifest }
      (isGrounded_bareRegistry plainManifest) apart).2.2.2
  have returns :
      (Job.on (indexAll Store.sampleStore {}
          [sourceless, manifestless].length 1 [sourceless, manifestless])
        { files := bareRegistry plainManifest }).1.toBool = true := by
    decide +kernel
  have ended := on_indexRegistry Store.sampleStore {}
    Store.sampleStore.registry { files := bareRegistry plainManifest }
  rw [crateDirectories_bareRegistry] at ended reports
  rw [← ended] at returns
  unfold Job.Ends at reports
  split at reports
  · rename_i report later run
    rcases reports with ⟨outcomes, whole, same, _, _, foreseen, _⟩
    exact ⟨report, later, outcomes, run, same, whole, foreseen⟩
  · rename_i fault later run
    rw [run] at returns
    cases returns

/-! ## A registry that is not reported -/

end Indexing

namespace Toml

/-- Each bracket opens a list in the one before. -/
theorem value_replicate (depth : Nat) :
    value depth (List.replicate depth '[') = .error .tooDeep := by
  induction depth with
  | zero => rfl
  | succ depth inductionStep =>
      rw [List.replicate_succ]
      cases depth with
      | zero => rfl
      | succ depth =>
          rw [List.replicate_succ] at inductionStep ⊢
          have opens :
              passLines (('[' :: List.replicate depth '[').length + 1)
                  ('[' :: List.replicate depth '[') =
                some ('[' :: List.replicate depth '[') := rfl
          rw [value, opens]
          change (items (value (depth + 1)) _
            ('[' :: List.replicate depth '[') >>= _) = _
          rw [List.length_cons, items, inductionStep]
          rfl

theorem unifyPairs_replicate (count : Nat) :
    unifyPairs (List.replicate count '[') = List.replicate count '[' := by
  induction count with
  | zero => rfl
  | succ count inductionStep =>
      rw [List.replicate_succ, unifyPairs, inductionStep]
      simp

theorem passGap_replicate (count : Nat) :
    passGap (List.replicate count '[') = List.replicate count '[' := by
  cases count with
  | zero => rfl
  | succ count => rfl

/-- A document is nested as deeply as its only value. -/
theorem document_of_value
    [Depths]
    {rest : List Char}
    (joined : unifyPairs rest = rest)
    (gapless : passGap rest = rest)
    (deep : value Depths.manifest rest = .error .tooDeep) :
    document (String.ofList ('x' :: '=' :: rest)) = .error .tooDeep := by
  have named : key ('x' :: '=' :: rest) = some (["x"], '=' :: rest) := rfl
  have equals : after? "=" ('=' :: rest) = some rest := rfl
  have unread : Draft.readLine {} ('x' :: '=' :: rest) = .error .tooDeep := by
    change Draft.readEntry {} ('x' :: '=' :: rest) = _
    unfold Draft.readEntry
    rw [named]
    simp only [demand, ok_bind, equals, gapless, deep, error_bind]
  have joins :
      unifyPairs (String.ofList ('x' :: '=' :: rest)).toList =
        'x' :: '=' :: rest := by
    rw [String.toList_ofList, unifyPairs, unifyPairs, joined]
    · simp
    · simp
  have alsoGapless : passGap ('x' :: '=' :: rest) = 'x' :: '=' :: rest := rfl
  unfold document
  rw [joins]
  simp only [Draft.readLines, alsoGapless, unread, error_bind]

end Toml

namespace Indexing

section

variable [Depths]

/-- A manifest with one list in another, too often. -/
def nestedManifest : String :=
  String.ofList ('x' :: '=' :: List.replicate Depths.manifest '[')

theorem read_nestedManifest :
    Manifest.read (bareRegistry nestedManifest) sourceless =
      .error (.meaningless .tooDeep) := by
  have nested : Toml.document nestedManifest = .error .tooDeep :=
    Toml.document_of_value (Toml.unifyPairs_replicate _)
      (Toml.passGap_replicate _) (Toml.value_replicate _)
  unfold Manifest.read
  dsimp only
  rw [read_sourceless]
  simp only [Except.mapError, ok_bind, Bytes.decodeText_ofText, nested,
    throw_eq_error]

theorem standsApart_nestedManifest :
    ∀ directory ∈ crateDirectories (bareRegistry nestedManifest)
        Store.sampleStore.registry,
      StandsApart Store.sampleStore (bareRegistry nestedManifest)
        directory := by
  apply standsApart_bareRegistry
  intro crate read
  rw [read_nestedManifest] at read
  cases read

theorem stops_nestedManifest :
    Stops Store.sampleStore {} { files := bareRegistry nestedManifest }
      sourceless (.manifest (.meaningless .tooDeep)) := by
  refine stops_of_prepared ?_ rfl
  unfold prepared
  rw [read_nestedManifest]
  rfl

/-- A source in which the documentation of a struct names a character that
there is not. -/
def vastText : String :=
  "#[doc = \"\\u\x7b110000\x7d\"]\npub struct S;\n"

/-- A registry of a crate with this source. -/
def vastRegistry : FileTree where
  entries :=
    [ (["reg"], .directory),
      (["reg", "src"], .directory),
      (["reg", "src", "i"], .directory),
      (["reg", "src", "i", "a-1"], .directory),
      (["reg", "src", "i", "a-1", "Cargo.toml"],
        .file (Bytes.ofText plainManifest)),
      (["reg", "src", "i", "a-1", "src"], .directory),
      (["reg", "src", "i", "a-1", "src", "lib.rs"],
        .file (Bytes.ofText vastText)) ]

/-- The file with the source. -/
def vastEntry : DiskPath :=
  ⟨"", ["reg", "src", "i", "a-1", "src", "lib.rs"]⟩

omit [Depths] in
theorem isGrounded_vastRegistry : vastRegistry.IsGrounded :=
  FileTree.isGrounded_of_held (by decide) (by decide) (by decide) (by decide)

omit [Depths] in
theorem crateDirectories_vastRegistry :
    crateDirectories vastRegistry Store.sampleStore.registry =
      [sourceless] :=
  crateDirectories_of_pairwise rfl (by decide)

omit [Depths] in
theorem read_vastRegistry :
    vastRegistry.read (Manifest.fileIn sourceless) =
      .ok (Bytes.ofText plainManifest) := rfl

omit [Depths] in
theorem readText_vastRegistry :
    Tree.readText vastRegistry vastEntry = .ok vastText :=
  Tree.readText_of_read rfl (by decide +kernel)

theorem standsApart_vastRegistry :
    ∀ directory ∈
        crateDirectories vastRegistry Store.sampleStore.registry,
      StandsApart Store.sampleStore vastRegistry directory := by
  intro directory member
  have outside := outside_of_mem_crateDirectories member
  rw [crateDirectories_vastRegistry, List.mem_singleton] at member
  subst member
  refine ⟨by decide, outside (by decide), ?_, ?_⟩
  · intro crate read
    exact isInside_of_read_plainManifest read_vastRegistry read
  · intro bytes read
    rw [read_vastRegistry] at read
    cases read
    exact ⟨plainManifest, Bytes.decodeText_ofText plainManifest⟩

/-- If the source is parsed to what it says, it cannot be documented, and this
is not foreseen. -/
theorem prepared_vastRegistry
    (parsed : Source.parse vastText = .ok Tree.vastBody) :
    ∃ fault,
      prepared {} vastRegistry sourceless = .error fault ∧
        fault.isForeseen = false := by
  rcases read_plainManifest read_vastRegistry with told | untold
  · have starts : entryOf vastRegistry sourceless = .ok vastEntry := rfl
    have useful : ({} : Settings).skipsHidden = .ok true := rfl
    cases read : Tree.treeOf vastRegistry plainCrate true (some vastEntry)
        Tree.vastBody with
    | ok tree => exact absurd read (Tree.treeOf_vast_ne_ok _ _ _)
    | error error =>
        refine ⟨.tree error, ?_, Tree.not_isForeseen_of_isRefused_vast
          (Tree.isRefused_of_treeOf read)⟩
        have undocumented :
            recordsOf vastRegistry plainCrate true vastText vastEntry =
              .error (.tree error) := by
          rw [recordsOf, Tree.document_of_parse parsed, read]
          rfl
        -- Rewriting would unfold the parsing of the source.
        refine bind_eq_error_iff.2 (.inr ⟨plainCrate,
          mapError_eq_ok_iff.2 told, ?_⟩)
        refine bind_eq_error_iff.2 (.inr ⟨vastEntry, starts, ?_⟩)
        refine bind_eq_error_iff.2 (.inr ⟨true,
          mapError_eq_ok_iff.2 useful, ?_⟩)
        refine bind_eq_error_iff.2 (.inr ⟨vastText,
          mapError_eq_ok_iff.2 readText_vastRegistry, ?_⟩)
        exact bind_eq_error_iff.2 (.inl undocumented)
  · refine ⟨.manifest (.meaningless .tooDeep), ?_, rfl⟩
    rw [prepared, untold]
    rfl

end

/-- Not every registry of text files is reported.  However deeply lists may be
nested, they can be nested more deeply in a manifest; and there is a source
that ends everything if it is parsed to what it says. -/
theorem not_always_reports :
    (¬ ∃ _ : Depths, ∀ (store : Store) (settings : Settings)
      (registry : DiskPath) (world : World),
      world.files.IsGrounded →
        (∀ directory ∈ crateDirectories world.files registry,
          StandsApart store world.files directory) →
          ∃ report later,
            Job.on (indexRegistry store settings registry) world =
              (.ok report, later)) ∧
    ∀ _ : Depths, Source.parse vastText = .ok Tree.vastBody →
      vastRegistry.IsGrounded ∧
      (∀ directory ∈
          crateDirectories vastRegistry Store.sampleStore.registry,
        StandsApart Store.sampleStore vastRegistry directory) ∧
      ∀ report later,
        Job.on (indexRegistry Store.sampleStore {}
            Store.sampleStore.registry) { files := vastRegistry } ≠
          (.ok report, later) := by
  constructor
  · rintro ⟨_, claimed⟩
    let world : World := { files := bareRegistry nestedManifest }
    have first :
        crateDirectories world.files Store.sampleStore.registry =
          [sourceless, manifestless] := crateDirectories_bareRegistry _
    rcases claimed Store.sampleStore {} Store.sampleStore.registry world
      (isGrounded_bareRegistry nestedManifest)
      standsApart_nestedManifest with ⟨report, later, run⟩
    exact on_indexRegistry_ne_ok first stops_nestedManifest report later run
  · intro _ parsed
    rcases prepared_vastRegistry parsed with ⟨fault, failed, unforeseen⟩
    let world : World := { files := vastRegistry }
    have first :
        crateDirectories world.files Store.sampleStore.registry =
          [sourceless] := crateDirectories_vastRegistry
    have stops : Stops Store.sampleStore {} world sourceless fault :=
      stops_of_prepared failed unforeseen
    exact ⟨isGrounded_vastRegistry, standsApart_vastRegistry,
      on_indexRegistry_ne_ok first stops⟩

end Indexing

end CrateShelf
