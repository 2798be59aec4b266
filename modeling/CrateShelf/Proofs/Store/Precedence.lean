import CrateShelf.Proofs.Store.Forms
import CrateShelf.Proofs.Version.Precedence

/-!
# The newest version by precedence

Of the versions of an item the one with the highest key is reported.  For
semantic versions this is the one of the highest precedence, unless it is
misread.

Main statement: semantic versions have keys that are told apart as their
precedence tells them apart, but are in its order only if neither version is
misread; and what is reported of an item is not below the other versions of it
exactly if it is not misread against them.
-/

namespace CrateShelf.Store

variable
    {locations found : List Location}
    {location other : Location}
    {query : String}
    {version later : SemanticVersion}

/-- A semantic version with a key is ranked by its numbers and the text of its
pre-release. -/
theorem versionRank_of_text
    (versioned : IsVersioned location)
    (text : location.crate.version = .text version.toText) :
    versionRank location = (version.key.rank : VersionKey.Rank) := by
  obtain ⟨key, read⟩ := versioned
  have unfolded :
      versionKey location =
        (VersionKey.ofVersion version.toText).mapError .version := by
    rw [versionKey, text]
  rw [unfolded] at read
  cases found : VersionKey.ofVersion version.toText with
  | error error =>
      rw [found] at read
      cases read
  | ok other =>
      obtain ⟨-, rfl⟩ := (version.ofVersion_toText_eq_ok_iff other).1 found
      rw [versionRank, unfolded, found]
      rfl

/-- What is reported and another location of the same item have versions with
keys. -/
theorem isVersioned_of_mem_answer
    (answered : answer locations query = .ok found)
    (reported : location ∈ found)
    (member : other ∈ locations)
    (same : other.itemKey = location.itemKey)
    (different : other ≠ location) :
    IsVersioned location ∧ IsVersioned other := by
  obtain ⟨kept, done, -⟩ := exists_foldlM_of_answer answered
  have compared := areCompared_of_foldlM done
  have among :=
    (newestOf_mem ((mem_answer_iff answered).1 reported)).1
  have alsoAmong : other ∈ sought locations query := by
    have samePath : location.path = other.path :=
      (congrArg Location.ItemKey.path same).symm
    exact mem_sought_iff.2
      ⟨member, (mem_sought_iff.1 among).2.congr samePath⟩
  exact ⟨compared location among other alsoAmong same different,
    compared other alsoAmong location among same.symm different.symm⟩

/-- A semantic version has a key unless a number of it has too many digits.
Keys are the same exactly if the precedence is, and in the order of precedence
exactly if neither version is misread.  What is reported of an item is not
below another version of it exactly if it is not misread. -/
theorem newer_iff_and_reported_iff_not_isMisread
    [Depths]
    (version later : SemanticVersion) :
    ((∃ key, VersionKey.ofVersion version.toText = .ok key) ↔
      version.IsShort) ∧
    (∀ key laterKey,
      VersionKey.ofVersion version.toText = .ok key →
        VersionKey.ofVersion later.toText = .ok laterKey →
          (key = laterKey ↔ version.precedence = later.precedence) ∧
          ((laterKey.newer key = true ↔
              version.precedence < later.precedence) ↔
            ¬ (version.IsMisread later ∨ later.IsMisread version))) ∧
    ∀ (store : Store) (world : World) (query : String)
        (locations found : List Location),
      world.IsKept →
        (Job.on store.allLocations world).1 = .ok locations →
          (Job.on (store.lookup query) world).1 = .ok found →
            ∀ location ∈ found, ∀ other ∈ locations,
              other.itemKey = location.itemKey → other ≠ location →
                location.crate.version = .text version.toText →
                  other.crate.version = .text later.toText →
                    (later.precedence ≤ version.precedence ↔
                      ¬ version.IsMisread later) := by
  refine ⟨?_, ?_, ?_⟩
  · constructor
    · rintro ⟨key, read⟩
      exact ((version.ofVersion_toText_eq_ok_iff key).1 read).1
    · intro short
      exact ⟨_, (version.ofVersion_toText_eq_ok_iff _).2 ⟨short, rfl⟩⟩
  · intro key laterKey read alsoRead
    obtain ⟨-, rfl⟩ := (version.ofVersion_toText_eq_ok_iff key).1 read
    obtain ⟨-, rfl⟩ := (later.ofVersion_toText_eq_ok_iff laterKey).1 alsoRead
    refine ⟨SemanticVersion.key_eq_key_iff, ?_⟩
    rw [VersionKey.newer_iff]
    exact SemanticVersion.rank_key_lt_iff_precedence_lt_iff
  · intro store world query locations found kept all done location reported
      other member same different text alsoText
    rw [on_lookup_of_ok kept all] at done
    obtain ⟨versioned, alsoVersioned⟩ :=
      isVersioned_of_mem_answer done reported member same different
    have notAbove := versionRank_le_of_mem_answer done reported member same
    rw [versionRank_of_text versioned text,
      versionRank_of_text alsoVersioned alsoText,
      WithBot.coe_le_coe] at notAbove
    exact SemanticVersion.precedence_le_iff_of_rank_key_le notAbove

/-- The word that candidates of a release are marked by. -/
def candidateMark : Identifier :=
  .word ['r', 'c'] (List.all_eq_true.1 rfl) ⟨'r', List.mem_cons_self, rfl⟩

/-- The second candidate of a release. -/
def secondCandidate : SemanticVersion where
  major := 1
  minor := 0
  patch := 0
  preRelease := [candidateMark, .number 2]

/-- The tenth candidate of the same release. -/
def tenthCandidate : SemanticVersion :=
  { secondCandidate with preRelease := [candidateMark, .number 10] }

theorem isMisread_secondCandidate :
    secondCandidate.IsMisread tenthCandidate := by
  have lower :
      (Identifier.number 2).rank < (Identifier.number 10).rank :=
    Sum.Lex.inl_lt_inl_iff.2 (by decide)
  exact ⟨rfl, .later (.here lower (.inl (by decide)))⟩

/-- A function in two candidates of a release. -/
def candidates : List Location :=
  [functionIn "1.0.0-rc.2" "", functionIn "1.0.0-rc.10" ""]

section

attribute [local instance] Depths.usual

theorem allLocations_candidates :
    (Job.on shelf.allLocations (holding candidates)).1 = .ok candidates :=
  congrArg Prod.fst (on_allLocations_of_known rfl)

/-- Of the two candidates the second is reported. -/
theorem lookup_candidates :
    (Job.on (shelf.lookup "f") (holding candidates)).1 =
      .ok [functionIn "1.0.0-rc.2" ""] := by
  have versioned : ∀ location ∈ candidates, IsVersioned location := by
    rw [candidates, List.forall_mem_cons, List.forall_mem_singleton]
    exact ⟨⟨⟨[1, 0, 0], false, "rc.2"⟩, rfl⟩,
      ⟨⟨[1, 0, 0], false, "rc.10"⟩, rfl⟩⟩
  have newest :
      newestEach (sought candidates "f") =
        [functionIn "1.0.0-rc.2" ""] := by
    decide
  have atomic :
      (sought candidates "f").all (·.itemKey.isAtomic) = true := by
    decide
  rw [on_lookup_of_ok (World.isKept_of_unknown rfl) allLocations_candidates,
    answer_eq_plainAnswer versioned, plainAnswer, atomic, if_pos rfl, newest,
    ranked, List.mergeSort_singleton]

theorem reported_secondCandidate :
    (holding candidates).IsKept ∧
      (Job.on shelf.allLocations (holding candidates)).1 = .ok candidates ∧
        (Job.on (shelf.lookup "f") (holding candidates)).1 =
            .ok [functionIn "1.0.0-rc.2" ""] ∧
          functionIn "1.0.0-rc.10" "" ∈ candidates ∧
            secondCandidate.precedence < tenthCandidate.precedence := by
  have kept : (holding candidates).IsKept := World.isKept_of_unknown rfl
  have member : functionIn "1.0.0-rc.10" "" ∈ candidates := by decide
  have below :=
    ((newer_iff_and_reported_iff_not_isMisread secondCandidate
      tenthCandidate).2.2 shelf (holding candidates) "f" candidates _ kept
      allLocations_candidates lookup_candidates
      (functionIn "1.0.0-rc.2" "") List.mem_cons_self
      (functionIn "1.0.0-rc.10" "") member rfl (by decide) rfl rfl).not.2
      (not_not.2 isMisread_secondCandidate)
  exact ⟨kept, allLocations_candidates, lookup_candidates, member,
    not_le.1 below⟩

end

/-- Keys are not always in the order of precedence: the key of the second
candidate is newer than that of the tenth. -/
theorem not_always_newer_iff :
    ¬ ∀ (version later : SemanticVersion) (key laterKey : VersionKey),
      VersionKey.ofVersion version.toText = .ok key →
        VersionKey.ofVersion later.toText = .ok laterKey →
          (laterKey.newer key = true ↔
            version.precedence < later.precedence) := by
  intro always
  have newer :=
    (always secondCandidate tenthCandidate ⟨[1, 0, 0], false, "rc.2"⟩
      ⟨[1, 0, 0], false, "rc.10"⟩ rfl rfl).2
      isMisread_secondCandidate.precedence_lt
  exact absurd newer (by decide)

end CrateShelf.Store
