import CrateShelf.Proofs.StableSort
import CrateShelf.Proofs.Store.Keywords
import CrateShelf.Proofs.Store.Newest
import CrateShelf.Proofs.Store.Recovery

/-!
# Answers of a store

The locations of a name are found by way of a table of keywords, which is
remembered until the list of all locations changes.

Main statement: whatever crates were written and names looked up before, the
answer is that of a plain search through all locations, and it would be the
same if the table were not remembered.
-/

namespace CrateShelf

namespace Store

variable
    {store : Store}
    {locations found : List Location}
    {query : String}
    {world : World}

/-! ## Plain search -/

/-- Whether a location is one of those that are looked for: its path contains
the name, in whatever case, and has each segment of it that any path has. -/
def IsSought
    (locations : List Location)
    (query : String)
    (location : Location) : Prop :=
  needleOf query ≠ "" ∧
    (needleOf query).toList <:+: Text.lower location.path.toText.toList ∧
    HasKeywords locations (segmentsOf (needleOf query)) location

instance (locations : List Location) (query : String) :
    DecidablePred (IsSought locations query) :=
  fun _ => inferInstanceAs (Decidable (_ ∧ _ ∧ _))

/-- The locations that are looked for, in their order. -/
def sought (locations : List Location) (query : String) : List Location :=
  locations.filter fun location => IsSought locations query location

/-- How close the path of a location is to what is looked for: by how many
edits of single characters make one of the other, its case put aside, and
then by its text. -/
def closeness (query : String) (location : Location) : Nat ×ₗ String :=
  let text := location.path.toText
  toLex (Finder.editDistance (lowered text) (needleOf query), text)

/-- The closest first; locations that are as close stay in their order. -/
def ranked (query : String) (locations : List Location) : List Location :=
  locations.mergeSort fun first second =>
    closeness query first ≤ closeness query second

/-- The answer of a plain search: of each item that is looked for the first
location of the newest version, the closest first.  There is none if an item
cannot be told from others. -/
def plainAnswer (locations : List Location) (query : String) :
    Except StoreError (List Location) :=
  if (sought locations query).all (·.itemKey.isAtomic) then
    .ok (ranked query (newestEach (sought locations query)))
  else .error .fileless

/-! ## Search by the table -/

theorem occursIn_iff {needle text : List Char} :
    Text.occursIn needle text = true ↔ needle <:+: text := by
  induction text with
  | nil => simp [Text.occursIn]
  | cons char rest inductionStep =>
      rw [Text.occursIn, Bool.or_eq_true, List.isPrefixOf_iff_prefix,
        inductionStep, List.infix_cons_iff]

theorem precedes_eq (first second : Nat × String) :
    precedes first second = decide (toLex first ≤ toLex second) := by
  rw [precedes, Bool.eq_iff_iff, decide_eq_true_eq, Prod.Lex.toLex_le_toLex]
  simp

/-- By way of the table, the locations that are looked for are gone through
in their order. -/
theorem find_eq (named : needleOf query ≠ "") :
    find locations (keywordTable locations) (needleOf query) =
      (sought locations query).foldlM keepNewest [] >>= fun found =>
        .ok (ranked query found) := by
  have candidates :
      ((numbersFor (keywordTable locations) locations.length
          (needleOf query)).filterMap (locations[·]?)).filter
            (mentions (needleOf query)) =
        sought locations query := by
    rw [filterMap_numbersFor, List.filter_filter, sought]
    apply List.filter_congr
    intro location _
    rw [Bool.eq_iff_iff, Bool.and_eq_true, mentions, occursIn_iff,
      decide_eq_true_eq, decide_eq_true_eq]
    exact ⟨fun both => ⟨named, both⟩, fun isSought => isSought.2⟩
  have sorted := map_mergeSort_measured (rankFor (needleOf query)) precedes
  simp only [precedes_eq] at sorted
  rw [find, candidates]
  simp only [precedes_eq, sorted, pure_eq_ok]
  rfl

theorem sought_eq_nil (unnamed : needleOf query = "") :
    sought locations query = [] := by
  rw [sought, List.filter_eq_nil_iff]
  intro location _ isSought
  exact (of_decide_eq_true isSought).1 unnamed

@[simp]
theorem ranked_nil (query : String) : ranked query [] = [] :=
  List.mergeSort_nil

theorem isStableSort_ranked (query : String) (locations : List Location) :
    IsStableSort (closeness query) locations (ranked query locations) :=
  isStableSort_mergeSort (closeness query) locations

/-- What is answered to a query by way of the table. -/
def answer (locations : List Location) (query : String) :
    Except StoreError (List Location) :=
  if needleOf query = "" then .ok []
  else find locations (keywordTable locations) (needleOf query)

/-- An answer is what is kept of the locations that are looked for. -/
theorem exists_foldlM_of_answer
    (answered : answer locations query = .ok found) :
    ∃ kept, (sought locations query).foldlM keepNewest [] = .ok kept ∧
      found = ranked query kept := by
  unfold answer at answered
  split at answered
  · rename_i unnamed
    cases answered
    rw [sought_eq_nil unnamed]
    exact ⟨[], rfl, (ranked_nil query).symm⟩
  · rename_i named
    rw [find_eq named] at answered
    obtain ⟨kept, done, ended⟩ := bind_eq_ok_iff.1 answered
    cases ended
    exact ⟨kept, done, rfl⟩

/-- An answer has the first location of the newest version of each item that
is looked for. -/
theorem eq_of_answer_eq_ok
    (answered : answer locations query = .ok found) :
    found = ranked query (newestEach (sought locations query)) := by
  obtain ⟨kept, done, rfl⟩ := exists_foldlM_of_answer answered
  rw [(keeps_of_foldlM done).eq_newestEach]

/-- Where all versions have keys, the answer is that of a plain search. -/
theorem answer_eq_plainAnswer
    (versioned : ∀ location ∈ locations, IsVersioned location) :
    answer locations query = plainAnswer locations query := by
  unfold answer
  split
  · rename_i unnamed
    rw [plainAnswer, sought_eq_nil unnamed, newestEach_nil, ranked_nil]
    rfl
  · rename_i named
    have soughtVersioned :
        ∀ location ∈ sought locations query, IsVersioned location :=
      fun location member => versioned location (List.mem_of_mem_filter member)
    rw [find_eq named, foldlM_keepNewest soughtVersioned, plainAnswer]
    split
    · rfl
    · rfl

end Store

/-! ## What is remembered -/

open Store

/-- Whether the keywords that are remembered, if any, are those of the
locations that are. -/
def World.IsKept (world : World) : Prop :=
  ∀ table, world.keywords? = some table →
    ∃ locations, world.known? = some locations ∧
      table = keywordTable locations

namespace World

variable {world : World}

theorem isKept_of_unknown (unknown : world.keywords? = none) :
    world.IsKept := by
  intro table known
  rw [unknown] at known
  cases known

/-- Locations become known, unless others are. -/
theorem IsKept.learn
    {locations : List Location}
    (kept : world.IsKept)
    (same : ∀ others, world.known? = some others → others = locations)
    (log : List LogEntry) :
    { world with known? := some locations, log }.IsKept := by
  intro table remembered
  obtain ⟨others, known, rfl⟩ := kept table remembered
  exact ⟨locations, rfl, by rw [same others known]⟩

end World

namespace Store

section

variable
    {α : Type}
    {store : Store}
    {locations : List Location}
    {query : String}
    {world : World}

variable [Depths]

theorem on_allLocations_of_known
    (known : world.known? = some locations) :
    Job.on store.allLocations world = (.ok locations, world) := by
  unfold allLocations
  rw [Job.on_bind_ok (Job.on_get world), known]
  rfl

/-- What all locations are does not depend on the keywords. -/
theorem allLocations_forgetful (store : Store) (world : World) :
    (Job.on store.allLocations { world with keywords? := none }).1 =
      (Job.on store.allLocations world).1 := by
  rcases Option.eq_none_or_eq_some world.known? with
    unknown | ⟨locations, known⟩
  · have alsoUnknown : { world with keywords? := none }.known? = none :=
      unknown
    rw [allLocations_of_unknown store unknown,
      allLocations_of_unknown store alsoUnknown]
  · have alsoKnown :
        { world with keywords? := none }.known? = some locations := known
    rw [on_allLocations_of_known known, on_allLocations_of_known alsoKnown]

/-- All locations are remembered, unless they cannot be found out. -/
theorem cases_of_on_allLocations (store : Store) (world : World) :
    (∃ locations log,
      (∀ others, world.known? = some others → others = locations) ∧
        Job.on store.allLocations world =
          (.ok locations, { world with known? := some locations, log })) ∨
    ∃ error log,
      Job.on store.allLocations world =
        (.error error, { world with log }) := by
  rcases Option.eq_none_or_eq_some world.known? with
    unknown | ⟨locations, known⟩
  · obtain ⟨log, read⟩ := readLocations_answers store world
    have unfolded :
        Job.on store.allLocations world =
          Job.on (store.readLocations >>= fun locations =>
            (modify fun world => { world with known? := some locations }) >>=
              fun _ => pure locations) world := by
      unfold allLocations
      rw [Job.on_bind_ok (Job.on_get world), unknown]
    rw [unfolded, Job.on_bind, read]
    cases store.readable world.files with
    | error error => exact .inr ⟨error, log, rfl⟩
    | ok locations =>
        refine .inl ⟨locations, log, ?_, rfl⟩
        intro others known
        rw [unknown] at known
        cases known
  · refine .inl ⟨locations, world.log, ?_, ?_⟩
    · intro others alsoKnown
      rw [known] at alsoKnown
      exact (Option.some.inj alsoKnown).symm
    · rw [on_allLocations_of_known known, ← known]

/-- The keywords are those of the locations that are remembered. -/
theorem on_keywords
    (store : Store)
    (kept : world.IsKept)
    (known : world.known? = some locations) :
    Job.on store.keywords world =
      (.ok (keywordTable locations),
        { world with keywords? := some (keywordTable locations) }) := by
  unfold keywords
  rw [Job.on_bind_ok (Job.on_get world)]
  rcases Option.eq_none_or_eq_some world.keywords? with
    none | ⟨table, remembered⟩
  · rw [none]
    exact Job.on_bind_ok (on_allLocations_of_known known)
  · obtain ⟨others, alsoKnown, rfl⟩ := kept table remembered
    rw [known] at alsoKnown
    cases alsoKnown
    have same :
        { world with keywords? := some (keywordTable locations) } = world := by
      rw [← remembered]
    rw [remembered, same]
    rfl

theorem lookup_of_unnamed (unnamed : needleOf query = "") :
    store.lookup query = pure [] := by
  unfold lookup
  dsimp only
  rw [if_pos unnamed]

theorem lookup_of_named (named : needleOf query ≠ "") :
    store.lookup query =
      (store.allLocations >>= fun locations =>
        store.keywords >>= fun table =>
          Job.ofExcept id (find locations table (needleOf query))) := by
  unfold lookup
  dsimp only
  rw [if_neg named]

/-- A query that names something is answered from all locations, which are
then remembered with their keywords. -/
theorem cases_of_on_lookup
    (kept : world.IsKept)
    (named : needleOf query ≠ "") :
    (∃ locations log,
      (Job.on store.allLocations world).1 = .ok locations ∧
        Job.on (store.lookup query) world =
          (answer locations query,
            { world with
              log
              known? := some locations
              keywords? := some (keywordTable locations) })) ∨
    ∃ error log,
      (Job.on store.allLocations world).1 = .error error ∧
        Job.on (store.lookup query) world =
          (.error error, { world with log }) := by
  rw [lookup_of_named named]
  rcases cases_of_on_allLocations store world with
    ⟨locations, log, same, found⟩ | ⟨error, log, failed⟩
  · refine .inl ⟨locations, log, by rw [found], ?_⟩
    rw [Job.on_bind_ok found,
      Job.on_bind_ok (on_keywords store (kept.learn same log) rfl),
      Job.on_ofExcept,
      answer, if_neg named]
    cases find locations (keywordTable locations) (needleOf query) with
    | ok found => rfl
    | error error => rfl
  · exact .inr ⟨error, log, by rw [failed], Job.on_bind_error failed⟩

/-- The answer to a query is told from all locations. -/
theorem on_lookup_of_ok
    (kept : world.IsKept)
    (all : (Job.on store.allLocations world).1 = .ok locations) :
    (Job.on (store.lookup query) world).1 = answer locations query := by
  by_cases unnamed : needleOf query = ""
  · rw [lookup_of_unnamed unnamed, answer, if_pos unnamed]
    rfl
  · rcases cases_of_on_lookup kept unnamed with
      ⟨others, log, found, done⟩ | ⟨error, log, failed, -⟩
    · rw [all] at found
      cases found
      rw [done]
    · rw [all] at failed
      cases failed

/-- A query that names something is not answered if the locations cannot be
found out. -/
theorem on_lookup_of_error
    {error : StoreError}
    (kept : world.IsKept)
    (named : needleOf query ≠ "")
    (failed : (Job.on store.allLocations world).1 = .error error) :
    (Job.on (store.lookup query) world).1 = .error error := by
  rcases cases_of_on_lookup kept named with
    ⟨locations, log, found, -⟩ | ⟨other, log, alsoFailed, done⟩
  · rw [failed] at found
    cases found
  · rw [failed] at alsoFailed
    cases alsoFailed
    rw [done]

/-- A query keeps what is remembered right. -/
theorem maintains_lookup (store : Store) (query : String) :
    (store.lookup query).Maintains World.IsKept := by
  intro world kept
  by_cases unnamed : needleOf query = ""
  · rw [lookup_of_unnamed unnamed]
    exact kept
  · rcases cases_of_on_lookup kept unnamed with
      ⟨locations, log, -, done⟩ | ⟨error, log, -, done⟩
    · rw [done]
      rintro _ ⟨⟩
      exact ⟨locations, rfl, rfl⟩
    · rw [done]
      exact kept

/-! ## Writing -/

omit [Depths] in
theorem maintains_change
    (blame : DiskFault → StoreError)
    (operation : FileTree → Except DiskFault FileTree) :
    (Job.change blame operation).Maintains World.IsKept :=
  Job.maintains_change fun _ _ _ kept => kept

omit [Depths] in
theorem maintains_ask
    (blame : DiskFault → StoreError)
    (question : FileTree → Except DiskFault α) :
    (Job.ask blame question).Maintains World.IsKept :=
  Job.maintains_of_answers (fun _ _ kept => kept) fun world =>
    ⟨_, Job.answers_ask blame question world⟩

theorem maintains_readLocations (store : Store) :
    store.readLocations.Maintains World.IsKept :=
  Job.maintains_of_answers (fun _ _ kept => kept) fun world =>
    ⟨_, readLocations_answers store world⟩

omit [Depths] in
/-- A new list of all locations comes without keywords. -/
theorem maintains_writeIndex (locations : List Location) :
    (store.writeIndex locations).Maintains World.IsKept := by
  unfold writeIndex
  refine Job.Maintains.bind (maintains_change _ _) fun _ => ?_
  dsimp only
  split
  · split
    · exact Job.maintains_throw_bind _ _
    · refine Job.Maintains.bind (maintains_change _ _) fun _ => ?_
      refine Job.Maintains.bind (maintains_change _ _) fun _ => ?_
      exact Job.maintains_modify fun _ _ => World.isKept_of_unknown rfl
  · exact Job.maintains_throw_bind _ _

/-- Writing a crate keeps what is remembered right, whether it succeeds or
fails. -/
theorem maintains_writeCrate
    (store : Store)
    (crate : CrateId)
    (records : List Record) :
    (store.writeCrate crate records).Maintains World.IsKept := by
  have written :
      ∀ blame locations,
        ((place records).1.forM (store.writePlaced blame) >>= fun _ =>
          store.readLocations >>= fun previous =>
            store.writeIndex (previous.filter
                (fun location => location.crate ≠ crate) ++ locations) >>=
              fun _ => Job.note ⟨.info, "store", "Stored " ++
                toString locations.length ++ " records for " ++
                  crate.toText⟩ >>= fun _ => pure locations).Maintains
          World.IsKept := by
    intro blame locations
    refine Job.Maintains.bind
      (Job.maintains_forM fun _ _ => maintains_change _ _) fun _ => ?_
    refine Job.Maintains.bind (maintains_readLocations store)
      fun previous => ?_
    refine Job.Maintains.bind (maintains_writeIndex _) fun _ => ?_
    exact Job.Maintains.bind (Job.maintains_modify fun _ kept => kept)
      fun _ => Job.maintains_pure _
  unfold writeCrate
  dsimp only
  split
  · split
    · exact Job.Maintains.bind (Job.maintains_modify fun _ kept => kept)
        fun _ => Job.maintains_throw_bind _ _
    · refine Job.Maintains.bind (Job.maintains_modify fun _ kept => kept)
        fun _ => ?_
      refine Job.Maintains.bind (maintains_ask _ _) fun isTaken => ?_
      split
      · exact Job.Maintains.bind (maintains_change _ _) fun _ => written _ _
      · exact written _ _
  · exact Job.maintains_throw_bind _ _

/-! ## Calls one after the other -/

/-- What a store is called for. -/
inductive Call where
  | write (crate : CrateId) (records : List Record)
  | look (query : String)
deriving Repr

/-- The world after a call, whether it succeeds or fails. -/
def afterCall (store : Store) (world : World) : Call → World
  | .write crate records => (Job.on (store.writeCrate crate records) world).2
  | .look query => (Job.on (store.lookup query) world).2

/-- The world after some calls, one after the other. -/
def afterCalls (store : Store) (world : World) (calls : List Call) : World :=
  calls.foldl store.afterCall world

theorem isKept_afterCall (kept : world.IsKept) (call : Call) :
    (store.afterCall world call).IsKept := by
  cases call with
  | write crate records =>
      exact maintains_writeCrate store crate records world kept
  | look query => exact maintains_lookup store query world kept

/-- Whatever was called for, the keywords are those of the locations. -/
theorem isKept_afterCalls
    (store : Store)
    (kept : world.IsKept)
    (calls : List Call) :
    (store.afterCalls world calls).IsKept := by
  induction calls generalizing world with
  | nil => exact kept
  | cons call calls inductionStep =>
      exact inductionStep (isKept_afterCall kept call)

/-- A store that was called for anything answers a query as a plain search
through all locations does, if their versions have keys; and it answers what
it would if it did not remember the keywords. -/
theorem lookup_afterCalls
    {start : World}
    (store : Store)
    (fresh : start.keywords? = none)
    (calls : List Call)
    (query : String) :
    (∀ locations,
      (Job.on store.allLocations (store.afterCalls start calls)).1 =
          .ok locations →
        (∀ location ∈ locations, IsVersioned location) →
          (Job.on (store.lookup query) (store.afterCalls start calls)).1 =
            plainAnswer locations query) ∧
    (Job.on (store.lookup query) (store.afterCalls start calls)).1 =
      (Job.on (store.lookup query)
        { store.afterCalls start calls with keywords? := none }).1 := by
  have kept :=
    isKept_afterCalls store (World.isKept_of_unknown fresh) calls
  generalize store.afterCalls start calls = world at kept
  have alsoKept : { world with keywords? := none : World }.IsKept :=
    World.isKept_of_unknown rfl
  have all := allLocations_forgetful store world
  constructor
  · intro locations found versioned
    rw [on_lookup_of_ok kept found, answer_eq_plainAnswer versioned]
  · by_cases named : needleOf query = ""
    · rw [lookup_of_unnamed named]
      rfl
    · cases found : (Job.on store.allLocations world).1 with
      | ok locations =>
          rw [found] at all
          rw [on_lookup_of_ok kept found, on_lookup_of_ok alsoKept all]
      | error error =>
          rw [found] at all
          rw [on_lookup_of_error kept named found,
            on_lookup_of_error alsoKept named all]

/-- Looking something up does not change the locations. -/
theorem known_afterCall_look
    (store : Store)
    (kept : world.IsKept)
    (known : world.known? = some locations)
    (query : String) :
    (store.afterCall world (.look query)).known? = some locations := by
  rw [afterCall]
  by_cases named : needleOf query = ""
  · rw [lookup_of_unnamed named]
    exact known
  · rcases cases_of_on_lookup kept named with
      ⟨others, log, found, done⟩ | ⟨error, log, failed, -⟩
    · rw [on_allLocations_of_known known] at found
      cases found
      rw [done]
    · rw [on_allLocations_of_known known] at failed
      cases failed

end

/-- The location of a function in a version of its crate. -/
def functionIn (version discriminator : String) : Location where
  crate := ⟨"krate", version⟩
  path := ⟨["krate", "f"]⟩
  name := "f"
  kind := .function
  discriminator := discriminator

/-- A function in two versions of its crate, and others whose paths contain
its own, all in the order of the list of a store. -/
def nearFunctions : List Location :=
  [⟨⟨"a", "1.0.0"⟩, ⟨["a", "krate", "f"]⟩, "f", .function, ""⟩,
    functionIn "0.10.0" "",
    functionIn "0.9.0" "",
    ⟨⟨"krate", "0.9.0"⟩, ⟨["krate", "f", "g"]⟩, "g", .function, ""⟩,
    ⟨⟨"krate", "0.9.0"⟩, ⟨["krate", "foo"]⟩, "foo", .function, ""⟩]

/-- A world in which some locations are remembered. -/
def holding (locations : List Location) : World :=
  { known? := some locations }

/-- A store to look things up in. -/
def shelf : Store := ⟨⟨"", ["reg"]⟩⟩

/-- The newest version is the closest; of the others, which are as close, the
one with the lesser path comes first.  `krate::foo` is closer than these, but
it has no segment `f`, as some paths do. -/
theorem ranked_nearFunctions :
    ranked " Krate::F " (newestEach (sought nearFunctions " Krate::F ")) =
      [functionIn "0.10.0" "",
        ⟨⟨"a", "1.0.0"⟩, ⟨["a", "krate", "f"]⟩, "f", .function, ""⟩,
        ⟨⟨"krate", "0.9.0"⟩, ⟨["krate", "f", "g"]⟩, "g", .function, ""⟩] := by
  apply (isStableSort_mergeSort _ _).eq_of_pairwise
  · decide +kernel
  · decide +kernel

section

attribute [local instance] Depths.usual

theorem lookup_afterCalls_nearFunctions :
    (holding nearFunctions).keywords? = none ∧
      (∀ location ∈ nearFunctions, IsVersioned location) ∧
        (Job.on (shelf.lookup " Krate::F ")
            (shelf.afterCalls (holding nearFunctions)
              [.look "krate", .look "G"])).1 =
          .ok [functionIn "0.10.0" "",
            ⟨⟨"a", "1.0.0"⟩, ⟨["a", "krate", "f"]⟩, "f", .function, ""⟩,
            ⟨⟨"krate", "0.9.0"⟩, ⟨["krate", "f", "g"]⟩, "g", .function,
              ""⟩] := by
  have fresh : (holding nearFunctions).keywords? = none := rfl
  have kept := World.isKept_of_unknown fresh
  have versioned : ∀ location ∈ nearFunctions, IsVersioned location := by
    have old : IsVersioned (functionIn "0.9.0" "") :=
      ⟨⟨[0, 9, 0], true, ""⟩, rfl⟩
    simp only [nearFunctions, List.forall_mem_cons]
    exact ⟨⟨⟨[1, 0, 0], true, ""⟩, rfl⟩, ⟨⟨[0, 10, 0], true, ""⟩, rfl⟩,
      old, old, old, List.forall_mem_nil _⟩
  have known :
      (shelf.afterCalls (holding nearFunctions)
          [.look "krate", .look "G"]).known? = some nearFunctions :=
    known_afterCall_look _ (isKept_afterCall kept _)
      (known_afterCall_look _ kept rfl _) _
  have answered :=
    (lookup_afterCalls shelf fresh [.look "krate", .look "G"]
      " Krate::F ").1 nearFunctions
        (congrArg Prod.fst (on_allLocations_of_known known)) versioned
  have atomic :
      (sought nearFunctions " Krate::F ").all (·.itemKey.isAtomic) = true := by
    decide +kernel
  rw [plainAnswer, atomic, if_pos rfl, ranked_nearFunctions] at answered
  exact ⟨fresh, versioned, answered⟩

end

end Store

end CrateShelf
