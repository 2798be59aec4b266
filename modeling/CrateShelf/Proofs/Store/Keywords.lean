import CrateShelf.Store.Lookup
import Mathlib.Data.List.Basic
import Mathlib.Data.List.Induction

/-!
# Keywords

The table of keywords tells for each segment of a path which locations have
it.  Narrowing down the locations by the segments of a name leaves those that
have all of its segments that any location has.

Main statement: the locations that the table leaves are those that a plain
filter does, in the same order.
-/

namespace CrateShelf.Store

variable {locations : List Location}

/-- Whether a segment is one of some location. -/
def IsKeyword (locations : List Location) (segment : String) : Prop :=
  ∃ location ∈ locations, segment ∈ keywordsOf location

instance (locations : List Location) :
    DecidablePred (IsKeyword locations) :=
  fun _ => inferInstanceAs (Decidable (∃ _ ∈ _, _))

/-- Whether a location has each of some segments that is a keyword. -/
def HasKeywords
    (locations : List Location)
    (segments : List String)
    (location : Location) : Prop :=
  ∀ segment ∈ segments,
    IsKeyword locations segment → segment ∈ keywordsOf location

instance (locations : List Location) (segments : List String) :
    DecidablePred (HasKeywords locations segments) :=
  fun _ => inferInstanceAs (Decidable (∀ _ ∈ _, _ → _))

/-! ## The table -/

/-- The numbers of the locations of which something holds. -/
def numbersOf (locations : List Location) (test : Location → Bool) :
    List Nat :=
  (List.range locations.length).filter fun number =>
    locations[number]?.any test

theorem filterMap_getElem?_range (locations : List Location) :
    (List.range locations.length).filterMap (locations[·]?) = locations := by
  have each :
      (List.range locations.length).map (locations[·]?) =
        locations.map some := by
    apply List.ext_getElem
    · simp
    · intro number _ within
      simp only [List.length_map] at within
      simp [within]
  calc
    (List.range locations.length).filterMap (locations[·]?) =
        ((List.range locations.length).map (locations[·]?)).filterMap id := by
      rw [List.filterMap_map, Function.id_comp]
    _ = locations := by
      rw [each, List.filterMap_map, Function.id_comp, List.filterMap_some]

/-- The locations with these numbers are those of which it holds. -/
theorem filterMap_numbersOf
    (locations : List Location)
    (test : Location → Bool) :
    (numbersOf locations test).filterMap (locations[·]?) =
      locations.filter test := by
  have each : ∀ number ∈ List.range locations.length,
      (if locations[number]?.any test then locations[number]? else none) =
        locations[number]?.filter test := by
    intro number _
    cases locations[number]? with
    | none => rfl
    | some location => rfl
  rw [numbersOf, List.filterMap_filter, List.filterMap_congr each,
    ← List.filter_filterMap, filterMap_getElem?_range]

theorem mem_keywords_iff (locations : List Location) (segment : String) :
    segment ∈ (locations.flatMap keywordsOf).eraseDups.mergeSort (· ≤ ·) ↔
      IsKeyword locations segment := by
  rw [List.mem_mergeSort, List.mem_eraseDups, List.mem_flatMap, IsKeyword]

/-- The table has the keywords, each with the numbers of the locations that
have it. -/
theorem lookup_keywordTable (locations : List Location) (segment : String) :
    (keywordTable locations).lookup segment =
      if IsKeyword locations segment then
        some (numbersWith locations segment)
      else none := by
  split
  · rename_i known
    exact List.lookup_graph _ ((mem_keywords_iff locations segment).2 known)
  · rename_i unknown
    rw [List.lookup_eq_none_iff]
    intro entry member
    obtain ⟨other, alsoMember, rfl⟩ := List.mem_map.1 member
    rw [mem_keywords_iff] at alsoMember
    rw [bne_iff_ne]
    rintro rfl
    exact unknown alsoMember

/-! ## Narrowing down -/

theorem numbersWith_eq (locations : List Location) (segment : String) :
    numbersWith locations segment =
      numbersOf locations fun location =>
        decide (segment ∈ keywordsOf location) := by
  simp only [numbersWith, numbersOf, List.contains_eq_mem]

/-- Numbers that are among others, too, are those of the locations of which
both hold. -/
theorem filter_contains_numbersOf
    (locations : List Location)
    (test other : Location → Bool) :
    (numbersOf locations test).filter (numbersOf locations other).contains =
      numbersOf locations fun location => test location && other location := by
  rw [numbersOf, numbersOf, List.filter_filter, numbersOf]
  apply List.filter_congr
  intro number member
  have within := List.mem_range.1 member
  simp [within, Bool.and_comm]

theorem hasKeywords_concat_iff
    {segments : List String}
    {segment : String}
    {location : Location} :
    HasKeywords locations (segments ++ [segment]) location ↔
      HasKeywords locations segments location ∧
        (IsKeyword locations segment → segment ∈ keywordsOf location) := by
  simp only [HasKeywords, List.forall_mem_append, List.forall_mem_singleton]

/-- Where no segment is a keyword, nothing is asked of a location. -/
theorem hasKeywords_of_unknown
    {segments : List String}
    (unknown : ¬ ∃ segment ∈ segments, IsKeyword locations segment)
    (location : Location) :
    HasKeywords locations segments location :=
  fun segment member known => absurd ⟨segment, member, known⟩ unknown

/-- A segment that is no keyword leaves the numbers as they are. -/
theorem narrow_of_unknown
    {segment : String}
    (unknown : ¬ IsKeyword locations segment)
    (candidates? : Option (List Nat)) :
    narrow (keywordTable locations) candidates? segment = candidates? := by
  unfold narrow
  rw [lookup_keywordTable, if_neg unknown]

/-- The first keyword leaves the numbers of the locations that have it. -/
theorem narrow_none_of_isKeyword
    {segment : String}
    (known : IsKeyword locations segment) :
    narrow (keywordTable locations) none segment =
      some (numbersOf locations fun location =>
        decide (segment ∈ keywordsOf location)) := by
  unfold narrow
  rw [lookup_keywordTable, if_pos known, numbersWith_eq]

/-- A keyword more leaves the numbers of the locations that have it, too. -/
theorem narrow_some_of_isKeyword
    {segment : String}
    (known : IsKeyword locations segment)
    (test : Location → Bool) :
    narrow (keywordTable locations) (some (numbersOf locations test))
        segment =
      some (numbersOf locations fun location =>
        test location && decide (segment ∈ keywordsOf location)) := by
  unfold narrow
  rw [lookup_keywordTable, if_pos known, numbersWith_eq]
  exact congrArg some (filter_contains_numbersOf locations test _)

/-- The numbers left by the segments so far are those of the locations that
have all of them that are keywords, if any of them is. -/
theorem foldl_narrow (locations : List Location) (segments : List String) :
    segments.foldl (narrow (keywordTable locations)) none =
      if ∃ segment ∈ segments, IsKeyword locations segment then
        some (numbersOf locations fun location =>
          HasKeywords locations segments location)
      else none := by
  induction segments using List.reverseRecOn with
  | nil => rfl
  | append_singleton segments segment inductionStep =>
      have some_ :
          (∃ other ∈ segments ++ [segment], IsKeyword locations other) ↔
            (∃ other ∈ segments, IsKeyword locations other) ∨
              IsKeyword locations segment := by
        simp only [List.mem_append, List.mem_singleton, or_and_right,
          exists_or, exists_eq_left]
      rw [List.foldl_concat, inductionStep]
      simp only [hasKeywords_concat_iff, some_]
      by_cases isKeyword : IsKeyword locations segment
      · by_cases known : ∃ other ∈ segments, IsKeyword locations other
        · simp only [isKeyword, known, if_true, or_self, forall_const,
            narrow_some_of_isKeyword isKeyword, Bool.decide_and]
        · simp only [isKeyword, known, if_true, if_false, or_true,
            forall_const, narrow_none_of_isKeyword isKeyword,
            hasKeywords_of_unknown known, true_and]
      · simp only [isKeyword, or_false, false_imp_iff, and_true,
          narrow_of_unknown isKeyword]

/-- The locations that the table leaves for a name are those that have its
segments that are keywords. -/
theorem filterMap_numbersFor
    (locations : List Location)
    (needle : String) :
    (numbersFor (keywordTable locations) locations.length needle).filterMap
        (locations[·]?) =
      locations.filter fun location =>
        HasKeywords locations (segmentsOf needle) location := by
  unfold numbersFor
  rw [foldl_narrow]
  by_cases known :
      ∃ segment ∈ segmentsOf needle, IsKeyword locations segment
  · rw [if_pos known]
    exact filterMap_numbersOf locations _
  · simp only [known, if_false, hasKeywords_of_unknown known, decide_true,
      List.filter_true, filterMap_getElem?_range]

end CrateShelf.Store
