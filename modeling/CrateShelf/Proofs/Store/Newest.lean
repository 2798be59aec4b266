import CrateShelf.Proofs.Association
import CrateShelf.Proofs.Outcome
import CrateShelf.Proofs.Version.Precedence
import CrateShelf.Store.Lookup
import Mathlib.Data.List.Induction
import Mathlib.Data.List.MinMax

/-!
# Newest versions

The locations that a name is found in are gone through one by one; of each
item the location of the newest version so far is kept.

Main statement: in the end there is one location for each item, in the order
in which the items were first met: the first location of the newest version
among all of the item.
-/

namespace CrateShelf.Store

/-! ## Versions -/

/-- Whether the version of a location has a key. -/
def IsVersioned (location : Location) : Prop :=
  ∃ key, versionKey location = .ok key

/-- What the version of a location is ranked by, if it has a key. -/
def versionRank (location : Location) : WithBot VersionKey.Rank :=
  match versionKey location with
  | .ok key => (key.rank : VersionKey.Rank)
  | .error _ => ⊥

theorem isVersioned_iff {location : Location} :
    IsVersioned location ↔ versionRank location ≠ ⊥ := by
  unfold IsVersioned versionRank
  cases versionKey location with
  | ok key => simp
  | error error => simp

/-- Two locations are compared if their versions have keys; one is newer if
its version ranks above that of the other. -/
theorem isNewer_eq_ok_iff
    {location current : Location}
    {newer : Bool} :
    isNewer location current = .ok newer ↔
      IsVersioned location ∧ IsVersioned current ∧
        newer = decide (versionRank current < versionRank location) := by
  unfold isNewer IsVersioned versionRank
  cases versionKey location with
  | error error => simp
  | ok key =>
      cases versionKey current with
      | error error => simp
      | ok currentKey =>
          have ranks :
              key.newer currentKey = decide (currentKey.rank < key.rank) := by
            rw [Bool.eq_iff_iff, VersionKey.newer_iff, decide_eq_true_eq]
          simp [ranks, eq_comm]

/-! ## One item -/

/-- The first location of the newest version of an item. -/
def newestOf (locations : List Location) (key : Location.ItemKey) :
    Option Location :=
  (locations.filter fun location => location.itemKey = key).argmax versionRank

variable
    {known found : List Location}
    {location current : Location}
    {key : Location.ItemKey}

theorem newestOf_mem
    (newest : newestOf known key = some location) :
    location ∈ known ∧ location.itemKey = key := by
  have member := List.argmax_mem newest
  rwa [List.mem_filter, decide_eq_true_eq] at member

/-- No location of an item is of a newer version than the newest. -/
theorem versionRank_le_of_newestOf
    (newest : newestOf known key = some location)
    {other : Location}
    (member : other ∈ known)
    (same : other.itemKey = key) :
    versionRank other ≤ versionRank location := by
  have among :
      other ∈ known.filter fun location => location.itemKey = key := by
    rw [List.mem_filter, decide_eq_true_eq]
    exact ⟨member, same⟩
  exact List.le_of_mem_argmax among newest

theorem newestOf_eq_none_iff :
    newestOf known key = none ↔ key ∉ known.map Location.itemKey := by
  rw [newestOf, List.argmax_eq_none, List.filter_eq_nil_iff]
  simp only [decide_eq_true_eq, List.mem_map, not_exists, not_and]

theorem filter_concat_of_same (known : List Location) (location : Location) :
    ((known ++ [location]).filter fun other =>
        other.itemKey = location.itemKey) =
      (known.filter fun other => other.itemKey = location.itemKey) ++
        [location] := by
  rw [List.filter_append, List.filter_singleton, decide_eq_true rfl, cond_true]

/-- A location of another item makes no difference. -/
theorem newestOf_concat_of_ne
    (different : location.itemKey ≠ key) :
    newestOf (known ++ [location]) key = newestOf known key := by
  rw [newestOf, List.filter_append, List.filter_singleton,
    decide_eq_false different, cond_false, List.append_nil, newestOf]

/-- The first location of an item is the newest so far. -/
theorem newestOf_concat_of_none
    (absent : newestOf known location.itemKey = none) :
    newestOf (known ++ [location]) location.itemKey = some location := by
  rw [newestOf] at absent
  rw [newestOf, filter_concat_of_same, List.argmax_concat, absent]

/-- A location of a newer version takes the place of the newest one. -/
theorem newestOf_concat_of_some
    (newest : newestOf known location.itemKey = some current) :
    newestOf (known ++ [location]) location.itemKey =
      some (if versionRank current < versionRank location then location
        else current) := by
  rw [newestOf] at newest
  rw [newestOf, filter_concat_of_same, List.argmax_concat, newest]
  dsimp only
  split
  · rfl
  · rfl

/-! ## All items -/

/-- For each item, in the order in which they are first met, the first
location of its newest version. -/
def newestEach (locations : List Location) : List Location :=
  (locations.map Location.itemKey).eraseDups.filterMap (newestOf locations)

@[simp]
theorem newestEach_nil : newestEach [] = [] := by
  rw [newestEach, List.map_nil, List.eraseDups_nil, List.filterMap_nil]

theorem mem_newestEach_iff :
    location ∈ newestEach known ↔
      newestOf known location.itemKey = some location := by
  rw [newestEach, List.mem_filterMap]
  constructor
  · rintro ⟨key, -, newest⟩
    rwa [(newestOf_mem newest).2]
  · intro newest
    refine ⟨location.itemKey, ?_, newest⟩
    rw [List.mem_eraseDups]
    exact List.mem_map_of_mem (newestOf_mem newest).1

/-- Whether locations are those of the newest versions of all items known, in
the order in which the items were first met. -/
structure Keeps (known found : List Location) : Prop where
  keys : found.map Location.itemKey = (known.map Location.itemKey).eraseDups
  newest : ∀ location ∈ found,
    newestOf known location.itemKey = some location

theorem Keeps.eq_newestEach (keeps : Keeps known found) :
    found = newestEach known := by
  have each : ∀ location ∈ found,
      (newestOf known ∘ Location.itemKey) location = some location :=
    keeps.newest
  rw [newestEach, ← keeps.keys, List.filterMap_map,
    List.filterMap_congr each, List.filterMap_some]

/-- A location of an item not met so far is kept. -/
theorem replaceOlder_of_new
    (new : location.itemKey ∉ found.map Location.itemKey) :
    replaceOlder location found = .ok (found ++ [location]) := by
  induction found with
  | nil => rfl
  | cons first found inductionStep =>
      rw [List.map_cons, List.mem_cons, not_or] at new
      rw [replaceOlder, if_neg (Ne.symm new.1), inductionStep new.2]
      rfl

/-- A location of a newer version takes the place of the one kept of the
item. -/
theorem replaceOlder_of_known
    {before after : List Location}
    (new : location.itemKey ∉ before.map Location.itemKey)
    (same : current.itemKey = location.itemKey) :
    replaceOlder location (before ++ current :: after) =
      isNewer location current >>= fun newer =>
        .ok (before ++ (if newer then location else current) :: after) := by
  induction before with
  | nil =>
      rw [List.nil_append, replaceOlder, if_pos same]
      rfl
  | cons first before inductionStep =>
      rw [List.map_cons, List.mem_cons, not_or] at new
      rw [List.cons_append, replaceOlder, if_neg (Ne.symm new.1),
        inductionStep new.2]
      cases isNewer location current with
      | error error => rfl
      | ok newer => rfl

theorem Keeps.nodup (keeps : Keeps known found) :
    (found.map Location.itemKey).Nodup := by
  rw [keeps.keys]
  exact nodup_eraseDups _

/-- The one kept of an item is the newest of it. -/
theorem Keeps.exists_split
    (keeps : Keeps known found)
    (met : key ∈ known.map Location.itemKey) :
    ∃ before current after,
      found = before ++ current :: after ∧
        current.itemKey = key ∧
          key ∉ before.map Location.itemKey ∧
            key ∉ after.map Location.itemKey := by
  rw [← List.mem_eraseDups, ← keeps.keys, List.mem_map] at met
  obtain ⟨current, member, same⟩ := met
  obtain ⟨before, after, rfl⟩ := List.append_of_mem member
  have apart := keeps.nodup
  rw [List.map_append, List.map_cons, same, List.nodup_middle,
    List.nodup_cons, List.mem_append, not_or] at apart
  exact ⟨before, current, after, rfl, same, apart.1⟩

/-- An item not met so far is kept behind the others. -/
theorem Keeps.concat_of_new
    (keeps : Keeps known found)
    (new : location.itemKey ∉ known.map Location.itemKey) :
    Keeps (known ++ [location]) (found ++ [location]) where
  keys := by
    rw [List.map_append, List.map_append, List.map_singleton,
      eraseDups_concat, if_neg new, keeps.keys]
  newest := by
    rw [List.forall_mem_append, List.forall_mem_singleton]
    constructor
    · intro other member
      rw [newestOf_concat_of_ne, keeps.newest other member]
      intro same
      apply new
      rw [same, ← List.mem_eraseDups, ← keeps.keys]
      exact List.mem_map_of_mem member
    · exact newestOf_concat_of_none (newestOf_eq_none_iff.2 new)

/-- An item met before is kept where it is, with its newest version. -/
theorem Keeps.concat_of_known
    {before after : List Location}
    (keeps : Keeps known (before ++ current :: after))
    (same : current.itemKey = location.itemKey)
    (notBefore : location.itemKey ∉ before.map Location.itemKey)
    (notAfter : location.itemKey ∉ after.map Location.itemKey) :
    Keeps (known ++ [location])
      (before ++
        (if versionRank current < versionRank location then location
          else current) :: after) := by
  have chosen :
      (if versionRank current < versionRank location then location
        else current).itemKey = location.itemKey := by
    split
    · rfl
    · exact same
  have newest := keeps.newest
  rw [List.forall_mem_append, List.forall_mem_cons, same] at newest
  obtain ⟨inBefore, here, inAfter⟩ := newest
  have others :
      ∀ list : List Location,
        location.itemKey ∉ list.map Location.itemKey →
          (∀ other ∈ list, newestOf known other.itemKey = some other) →
            ∀ other ∈ list,
              newestOf (known ++ [location]) other.itemKey = some other := by
    intro list absent each other member
    rw [newestOf_concat_of_ne, each other member]
    intro alsoSame
    exact absent (alsoSame ▸ List.mem_map_of_mem member)
  constructor
  · have keys := keeps.keys
    have met : location.itemKey ∈ known.map Location.itemKey := by
      rw [← List.mem_eraseDups, ← keys, List.map_append, List.map_cons, same]
      exact List.mem_append_right _ List.mem_cons_self
    rw [List.map_append, List.map_cons, same] at keys
    rw [List.map_append, List.map_cons, chosen, keys, List.map_append,
      List.map_singleton, eraseDups_concat, if_pos met]
  · rw [List.forall_mem_append, List.forall_mem_cons, chosen]
    exact ⟨others before notBefore inBefore, newestOf_concat_of_some here,
      others after notAfter inAfter⟩

/-- What is kept when one location more has been gone through. -/
theorem Keeps.of_replaceOlder
    {later : List Location}
    (keeps : Keeps known found)
    (replaced : replaceOlder location found = .ok later) :
    Keeps (known ++ [location]) later := by
  by_cases met : location.itemKey ∈ known.map Location.itemKey
  · obtain ⟨before, current, after, rfl, same, notBefore, notAfter⟩ :=
      keeps.exists_split met
    rw [replaceOlder_of_known notBefore same] at replaced
    obtain ⟨newer, compared, ended⟩ := bind_eq_ok_iff.1 replaced
    obtain ⟨-, -, rfl⟩ := isNewer_eq_ok_iff.1 compared
    cases ended
    simp only [decide_eq_true_eq]
    exact keeps.concat_of_known same notBefore notAfter
  · have new : location.itemKey ∉ found.map Location.itemKey := by
      rwa [keeps.keys, List.mem_eraseDups]
    rw [replaceOlder_of_new new] at replaced
    cases replaced
    exact keeps.concat_of_new met

/-- A location can be gone through if the versions have keys. -/
theorem Keeps.exists_replaceOlder
    (keeps : Keeps known found)
    (versioned : ∀ other ∈ known, IsVersioned other)
    (alsoVersioned : IsVersioned location) :
    ∃ later, replaceOlder location found = .ok later := by
  by_cases met : location.itemKey ∈ known.map Location.itemKey
  · obtain ⟨before, current, after, rfl, same, notBefore, -⟩ :=
      keeps.exists_split met
    have newest : newestOf known current.itemKey = some current :=
      keeps.newest current
        (List.mem_append_right _ List.mem_cons_self)
    have compared :=
      isNewer_eq_ok_iff.2
        ⟨alsoVersioned, versioned current (newestOf_mem newest).1, rfl⟩
    rw [replaceOlder_of_known notBefore same, compared]
    exact ⟨_, rfl⟩
  · have new : location.itemKey ∉ found.map Location.itemKey := by
      rwa [keeps.keys, List.mem_eraseDups]
    exact ⟨_, replaceOlder_of_new new⟩

theorem keepNewest_eq_ok_iff
    {later : List Location} :
    keepNewest found location = .ok later ↔
      location.itemKey.isAtomic = true ∧
        replaceOlder location found = .ok later := by
  unfold keepNewest
  cases location.itemKey.isAtomic with
  | false => simp
  | true => simp

theorem keeps_nil : Keeps [] [] where
  keys := rfl
  newest := List.forall_mem_nil _

/-- What is kept after all locations have been gone through. -/
theorem keeps_of_foldlM
    {locations : List Location}
    (done : locations.foldlM keepNewest [] = .ok found) :
    Keeps locations found := by
  induction locations using List.reverseRecOn generalizing found with
  | nil =>
      cases done
      exact keeps_nil
  | append_singleton locations location inductionStep =>
      obtain ⟨earlier, before, kept⟩ := foldlM_concat_eq_ok_iff.1 done
      exact (inductionStep before).of_replaceOlder
        (keepNewest_eq_ok_iff.1 kept).2

/-- Whether the versions of locations of one item have keys, unless there is
one location of it only. -/
def AreCompared (known : List Location) : Prop :=
  ∀ location ∈ known, ∀ other ∈ known,
    other.itemKey = location.itemKey → other ≠ location → IsVersioned location

/-- Versions of one item have been compared when one location more has been
gone through. -/
theorem AreCompared.concat
    {later : List Location}
    (compared : AreCompared known)
    (keeps : Keeps known found)
    (replaced : replaceOlder location found = .ok later) :
    AreCompared (known ++ [location]) := by
  have both :
      ∀ other ∈ known, other.itemKey = location.itemKey →
        IsVersioned location ∧ IsVersioned other := by
    intro other member same
    have met : location.itemKey ∈ known.map Location.itemKey :=
      same ▸ List.mem_map_of_mem member
    obtain ⟨before, current, after, rfl, alsoSame, notBefore, -⟩ :=
      keeps.exists_split met
    rw [replaceOlder_of_known notBefore alsoSame] at replaced
    obtain ⟨newer, done, -⟩ := bind_eq_ok_iff.1 replaced
    obtain ⟨versioned, currentVersioned, -⟩ := isNewer_eq_ok_iff.1 done
    refine ⟨versioned, ?_⟩
    -- The one kept was compared just now, any other one with it before.
    by_cases equal : current = other
    · exact equal ▸ currentVersioned
    · have among : current ∈ known :=
        (newestOf_mem (keeps.newest current
          (List.mem_append_right _ List.mem_cons_self))).1
      exact compared other member current among
        (alsoSame.trans same.symm) equal
  intro first member second alsoMember same different
  rw [List.mem_append, List.mem_singleton] at member alsoMember
  rcases member with member | rfl
  · rcases alsoMember with alsoMember | rfl
    · exact compared first member second alsoMember same different
    · exact (both first member same.symm).2
  · rcases alsoMember with alsoMember | rfl
    · exact (both second alsoMember same).1
    · exact absurd rfl different

/-- Versions of one item have been compared when all locations have been gone
through. -/
theorem areCompared_of_foldlM
    {locations : List Location}
    (done : locations.foldlM keepNewest [] = .ok found) :
    AreCompared locations := by
  induction locations using List.reverseRecOn generalizing found with
  | nil => exact List.forall_mem_nil _
  | append_singleton locations location inductionStep =>
      obtain ⟨earlier, before, kept⟩ := foldlM_concat_eq_ok_iff.1 done
      exact (inductionStep before).concat (keeps_of_foldlM before)
        (keepNewest_eq_ok_iff.1 kept).2

/-- Locations whose versions have keys can all be gone through if their
labels tell their items apart. -/
theorem foldlM_keepNewest
    {locations : List Location}
    (versioned : ∀ location ∈ locations, IsVersioned location) :
    locations.foldlM keepNewest [] =
      if locations.all (·.itemKey.isAtomic) then .ok (newestEach locations)
      else .error .fileless := by
  induction locations using List.reverseRecOn with
  | nil => rfl
  | append_singleton locations location inductionStep =>
      rw [List.forall_mem_append, List.forall_mem_singleton] at versioned
      have before := inductionStep versioned.1
      rw [List.foldlM_append, before, List.all_append, List.all_cons,
        List.all_nil, Bool.and_true]
      cases all : locations.all (·.itemKey.isAtomic) with
      | false => rfl
      | true =>
          rw [all, if_pos rfl] at before
          rw [if_pos rfl, ok_bind, List.foldlM_cons, Bool.true_and]
          cases atomic : location.itemKey.isAtomic with
          | false =>
              rw [keepNewest, atomic]
              rfl
          | true =>
              have keeps := keeps_of_foldlM before
              obtain ⟨later, replaced⟩ :=
                keeps.exists_replaceOlder versioned.1 versioned.2
              have kept := keepNewest_eq_ok_iff.2 ⟨atomic, replaced⟩
              rw [kept, ← (keeps.of_replaceOlder replaced).eq_newestEach]
              rfl

end CrateShelf.Store
