import CrateShelf.Proofs.Store.Lookup

/-!
# Forms of an item

Records of one crate that would share a file have different discriminators.
An item has a form for each of them, and each form is taken for an item of
its own when names are looked up.

Main statement: what is reported is the newest version of its form; it is the
newest version of the item exactly when, wherever a newer version than that
of some form has the item, a version that is not older has this form, too.
-/

namespace CrateShelf.Store

variable
    {store : Store}
    {world : World}
    {locations found : List Location}
    {location other : Location}
    {query : String}

/-- Whether two locations are of one item, in whatever version and form. -/
def IsSameItem (first second : Location) : Prop :=
  { first.itemKey with discriminator := "" } =
    { second.itemKey with discriminator := "" }

/-- Whether the version of a location is newer than that of another. -/
def Outdates (location other : Location) : Prop :=
  isNewer location other = .ok true

/-- Whether no location of an item is of a newer version. -/
def IsUpToDate (locations : List Location) (location : Location) : Prop :=
  ∀ other ∈ locations, IsSameItem other location → ¬ Outdates other location

/-- Whether a version that is not older than that of another location has the
form of a location. -/
def IsRenewed
    (locations : List Location)
    (location other : Location) : Prop :=
  ∃ renewed ∈ locations,
    renewed.itemKey = location.itemKey ∧ isNewer other renewed = .ok false

/-- Only the path of a location tells whether it is looked for. -/
theorem IsSought.congr
    (isSought : IsSought locations query location)
    (same : location.path = other.path) :
    IsSought locations query other := by
  unfold IsSought HasKeywords keywordsOf at isSought ⊢
  rwa [← same]

theorem mem_ranked_iff :
    location ∈ ranked query locations ↔ location ∈ locations :=
  (isStableSort_ranked query locations).perm.mem_iff

theorem mem_sought_iff :
    location ∈ sought locations query ↔
      location ∈ locations ∧ IsSought locations query location := by
  rw [sought, List.mem_filter, decide_eq_true_eq]

/-- A location is in an answer if it is the first of the newest version among
those of its form that are looked for. -/
theorem mem_answer_iff
    (answered : answer locations query = .ok found) :
    location ∈ found ↔
      newestOf (sought locations query) location.itemKey = some location := by
  rw [eq_of_answer_eq_ok answered, mem_ranked_iff, mem_newestEach_iff]

/-- No location of the same form is of a newer version than one in an
answer. -/
theorem versionRank_le_of_mem_answer
    (answered : answer locations query = .ok found)
    (reported : location ∈ found)
    (member : other ∈ locations)
    (same : other.itemKey = location.itemKey) :
    versionRank other ≤ versionRank location := by
  have newest := (mem_answer_iff answered).1 reported
  have isSought := (mem_sought_iff.1 (newestOf_mem newest).1).2
  have samePath : location.path = other.path :=
    (congrArg Location.ItemKey.path same).symm
  exact versionRank_le_of_newestOf newest
    (mem_sought_iff.2 ⟨member, isSought.congr samePath⟩) same

/-- Of each form that is looked for something is in an answer. -/
theorem exists_mem_answer
    (answered : answer locations query = .ok found)
    (member : location ∈ locations)
    (isSought : IsSought locations query location) :
    ∃ reported ∈ found,
      reported ∈ locations ∧ reported.itemKey = location.itemKey := by
  have met :
      location.itemKey ∈ (sought locations query).map Location.itemKey :=
    List.mem_map_of_mem (mem_sought_iff.2 ⟨member, isSought⟩)
  obtain ⟨reported, newest⟩ :=
    Option.ne_none_iff_exists'.1 (mt newestOf_eq_none_iff.1 (not_not.2 met))
  obtain ⟨among, same⟩ := newestOf_mem newest
  refine ⟨reported, ?_, (mem_sought_iff.1 among).1, same⟩
  rw [mem_answer_iff answered, same]
  exact newest

/-- What is reported is the newest version of its form; all that is reported
is the newest version of its item exactly when each form that is looked for
is renewed wherever a newer version has the item. -/
theorem isUpToDate_iff_isRenewed
    [Depths]
    (kept : world.IsKept)
    (all : (Job.on store.allLocations world).1 = .ok locations)
    (done : (Job.on (store.lookup query) world).1 = .ok found) :
    (∀ location ∈ found, location ∈ locations ∧
      ∀ other ∈ locations, other.itemKey = location.itemKey →
        ¬ Outdates other location) ∧
    ((∀ location ∈ found, IsUpToDate locations location) ↔
      ∀ location ∈ locations, IsSought locations query location →
        ∀ other ∈ locations, IsSameItem other location →
          Outdates other location → IsRenewed locations location other) := by
  rw [on_lookup_of_ok kept all] at done
  refine ⟨?_, ?_, ?_⟩
  · intro location reported
    have newest := (mem_answer_iff done).1 reported
    refine ⟨(mem_sought_iff.1 (newestOf_mem newest).1).1, ?_⟩
    intro other member same outdates
    obtain ⟨-, -, above⟩ := isNewer_eq_ok_iff.1 outdates
    exact (versionRank_le_of_mem_answer done reported member same).not_gt
      (of_decide_eq_true above.symm)
  · intro upToDate location member isSought other alsoMember same outdates
    obtain ⟨reported, isReported, among, sameForm⟩ :=
      exists_mem_answer done member isSought
    obtain ⟨versioned, alsoVersioned, -⟩ := isNewer_eq_ok_iff.1 outdates
    have notBelow : versionRank location ≤ versionRank reported :=
      versionRank_le_of_mem_answer done isReported member sameForm.symm
    have reportedVersioned : IsVersioned reported := by
      rw [isVersioned_iff] at alsoVersioned ⊢
      exact ne_bot_of_le_ne_bot alsoVersioned notBelow
    have sameItem : IsSameItem other reported := by
      rw [IsSameItem, sameForm]
      exact same
    have current : ¬ Outdates other reported :=
      upToDate reported isReported other alsoMember sameItem
    refine ⟨reported, among, sameForm, ?_⟩
    have compared :=
      isNewer_eq_ok_iff.2 ⟨versioned, reportedVersioned, rfl⟩
    rw [Outdates, compared, Except.ok.injEq, Bool.not_eq_true] at current
    rw [compared, current]
  · intro renewed location reported other member same outdates
    have newest := (mem_answer_iff done).1 reported
    obtain ⟨among, isSought⟩ := mem_sought_iff.1 (newestOf_mem newest).1
    obtain ⟨later, alsoMember, sameForm, compared⟩ :=
      renewed location among isSought other member same outdates
    have notAbove : versionRank later ≤ versionRank location :=
      versionRank_le_of_mem_answer done reported alsoMember sameForm
    obtain ⟨-, -, above⟩ := isNewer_eq_ok_iff.1 outdates
    obtain ⟨-, -, notOlder⟩ := isNewer_eq_ok_iff.1 compared
    exact of_decide_eq_false notOlder.symm
      (notAbove.trans_lt (of_decide_eq_true above.symm))

/-- A function that is there twice in an old version of its crate and once in
a new one. -/
def twoForms : List Location :=
  [functionIn "0.9.0" "", functionIn "0.9.0" "5f1d4e",
    functionIn "0.10.0" ""]

section

attribute [local instance] Depths.usual

theorem allLocations_twoForms :
    (Job.on shelf.allLocations (holding twoForms)).1 = .ok twoForms :=
  congrArg Prod.fst (on_allLocations_of_known rfl)

/-- The second form is reported from the old version. -/
theorem lookup_twoForms :
    (Job.on (shelf.lookup "f") (holding twoForms)).1 =
      .ok (ranked "f"
        [functionIn "0.10.0" "", functionIn "0.9.0" "5f1d4e"]) := by
  have versioned : ∀ location ∈ twoForms, IsVersioned location := by
    rw [twoForms, List.forall_mem_cons, List.forall_mem_cons,
      List.forall_mem_singleton]
    exact ⟨⟨⟨[0, 9, 0], true, ""⟩, rfl⟩, ⟨⟨[0, 9, 0], true, ""⟩, rfl⟩,
      ⟨⟨[0, 10, 0], true, ""⟩, rfl⟩⟩
  have newest :
      newestEach (sought twoForms "f") =
        [functionIn "0.10.0" "", functionIn "0.9.0" "5f1d4e"] := by
    decide
  have atomic :
      (sought twoForms "f").all (·.itemKey.isAtomic) = true := by
    decide
  rw [on_lookup_of_ok (World.isKept_of_unknown rfl) allLocations_twoForms,
    answer_eq_plainAnswer versioned, plainAnswer, atomic, if_pos rfl, newest]

theorem isUpToDate_iff_isRenewed_twoForms :
    (holding twoForms).IsKept ∧
      (Job.on shelf.allLocations (holding twoForms)).1 = .ok twoForms ∧
        (Job.on (shelf.lookup "f") (holding twoForms)).1 =
            .ok (ranked "f"
              [functionIn "0.10.0" "", functionIn "0.9.0" "5f1d4e"]) ∧
          ∀ other ∈ twoForms,
            other.itemKey = (functionIn "0.10.0" "").itemKey →
              ¬ Outdates other (functionIn "0.10.0" "") := by
  have kept : (holding twoForms).IsKept := World.isKept_of_unknown rfl
  have reported :
      functionIn "0.10.0" "" ∈
        ranked "f" [functionIn "0.10.0" "", functionIn "0.9.0" "5f1d4e"] :=
    mem_ranked_iff.2 List.mem_cons_self
  refine ⟨kept, allLocations_twoForms, lookup_twoForms, ?_⟩
  exact
    ((isUpToDate_iff_isRenewed kept allLocations_twoForms
      lookup_twoForms).1 _ reported).2

/-- Not all that is reported is the newest version of its item: the second
form is reported from a version that is not. -/
theorem not_always_isUpToDate :
    ¬ ∀ (store : Store) (world : World) (query : String)
        (locations found : List Location),
        world.IsKept →
          (Job.on store.allLocations world).1 = .ok locations →
            (Job.on (store.lookup query) world).1 = .ok found →
              ∀ location ∈ found, IsUpToDate locations location := by
  intro always
  have reported :
      functionIn "0.9.0" "5f1d4e" ∈
        ranked "f" [functionIn "0.10.0" "", functionIn "0.9.0" "5f1d4e"] :=
    mem_ranked_iff.2 (List.mem_cons_of_mem _ List.mem_cons_self)
  have member : functionIn "0.10.0" "" ∈ twoForms := by decide
  have same :
      IsSameItem (functionIn "0.10.0" "") (functionIn "0.9.0" "5f1d4e") := rfl
  have outdates :
      Outdates (functionIn "0.10.0" "") (functionIn "0.9.0" "5f1d4e") := rfl
  exact always shelf (holding twoForms) "f" twoForms _
    (World.isKept_of_unknown rfl) allLocations_twoForms lookup_twoForms _
    reported _ member same outdates

end

end CrateShelf.Store
