import CrateShelf.Location

/-!
# Order of locations

Locations that are told apart by texts are ordered as the lists of these
texts are, and no two of them have the same.

Main statement: such locations are put in the same order however they are
listed.
-/

namespace CrateShelf.Location

/-- What the order of locations looks at, part by part. -/
def key (location : Location) : List (List String) :=
  [[location.crate.name.written], [location.crate.version.written],
    location.path.segments, [location.kind.name], [location.name.written],
    [location.discriminator.written]]

variable
    {location other : Location}
    {first second : List Location}

/-! ## Comparing part by part -/

/-- Lists are compared by their first items, and then by the others. -/
theorem compareOfLessAndEq_cons
    {Part : Type}
    [LT Part]
    [DecidableLT Part]
    [DecidableEq Part]
    (irreflexive : ∀ part : Part, ¬ part < part)
    (part next : Part)
    (parts others : List Part) :
    compareOfLessAndEq (part :: parts) (next :: others) =
      (compareOfLessAndEq part next).then (compareOfLessAndEq parts others) := by
  unfold compareOfLessAndEq
  by_cases less : part < next
  · simp [List.cons_lt_cons_iff, less]
  · by_cases same : part = next
    · subst same
      simp [List.cons_lt_cons_iff, irreflexive part]
    · simp [List.cons_lt_cons_iff, less, same]

theorem compareOfLessAndEq_singleton (text next : String) :
    compareOfLessAndEq [text] [next] = compareOfLessAndEq text next := by
  rw [compareOfLessAndEq_cons String.lt_irrefl]
  cases compareOfLessAndEq text next <;> rfl

theorem compareOfLessAndEq_key
    (location other : Location) :
    compareOfLessAndEq location.key other.key =
      ((compareOfLessAndEq location.crate.name.written
          other.crate.name.written).then <|
        (compareOfLessAndEq location.crate.version.written
          other.crate.version.written).then <|
        (compareOfLessAndEq location.path.segments
          other.path.segments).then <|
        (compareOfLessAndEq location.kind.name other.kind.name).then <|
        (compareOfLessAndEq location.name.written other.name.written).then <|
        compareOfLessAndEq location.discriminator.written
          other.discriminator.written) := by
  have irreflexive : ∀ part : List String, ¬ part < part :=
    fun part => List.lt_irrefl part
  unfold key
  iterate 6 rw [compareOfLessAndEq_cons irreflexive]
  iterate 5 rw [compareOfLessAndEq_singleton]
  cases compareOfLessAndEq location.discriminator.written
    other.discriminator.written <;> rfl

theorem exists_text_of_isWholeText
    {label : Label}
    (text : label.isWholeText = true) :
    ∃ content, label = .text content := by
  cases label with
  | text content => exact ⟨content, rfl⟩
  | _ => cases text

/-- What a location is made of that is told apart from others by texts. -/
theorem exists_texts_of_isTextual
    (textual : location.isTextual = true) :
    ∃ name version path item kind mark,
      location = ⟨⟨.text name, .text version⟩, path, .text item, kind,
        .text mark⟩ := by
  obtain ⟨⟨crateName, version⟩, path, name, kind, discriminator⟩ := location
  simp only [isTextual, List.all_cons, List.all_nil, Bool.and_true,
    Bool.and_eq_true] at textual
  obtain ⟨crateText, versionText, nameText, discriminatorText⟩ := textual
  obtain ⟨_, rfl⟩ := exists_text_of_isWholeText crateText
  obtain ⟨_, rfl⟩ := exists_text_of_isWholeText versionText
  obtain ⟨_, rfl⟩ := exists_text_of_isWholeText nameText
  obtain ⟨_, rfl⟩ := exists_text_of_isWholeText discriminatorText
  exact ⟨_, _, path, _, kind, _, rfl⟩

theorem orElse_some (first second : Ordering) :
    Label.orElse (some first) (some second) = some (first.then second) := by
  cases first <;> rfl

/-- Locations that are told apart by texts are ordered as these are. -/
theorem order?_eq
    (textual : location.isTextual = true)
    (otherTextual : other.isTextual = true) :
    location.order? other =
      some (compareOfLessAndEq location.key other.key) := by
  obtain ⟨_, _, _, _, _, _, rfl⟩ := exists_texts_of_isTextual textual
  obtain ⟨_, _, _, _, _, _, rfl⟩ := exists_texts_of_isTextual otherTextual
  rw [compareOfLessAndEq_key]
  unfold order?
  iterate 4 rw [Label.order?_text]
  iterate 5 rw [orElse_some]
  rfl

theorem atMost_eq
    (textual : location.isTextual = true)
    (otherTextual : other.isTextual = true) :
    location.atMost other = decide (¬ other.key < location.key) := by
  have greater :
      compareOfLessAndEq location.key other.key = .gt ↔
        other.key < location.key :=
    @compareOfLessAndEq_eq_gt _ _ List.instLE _ _ List.le_antisymm
      List.le_total List.not_le _ _
  rw [atMost, order?_eq textual otherTextual, Bool.eq_iff_iff,
    decide_eq_true_eq, bne_iff_ne, ne_eq, Option.some_inj, greater]

/-- Locations that are told apart by texts are. -/
theorem eq_of_key_eq
    (textual : location.isTextual = true)
    (otherTextual : other.isTextual = true)
    (same : location.key = other.key) :
    location = other := by
  obtain ⟨_, _, ⟨_⟩, _, _, _, rfl⟩ := exists_texts_of_isTextual textual
  obtain ⟨_, _, ⟨_⟩, _, _, _, rfl⟩ := exists_texts_of_isTextual otherTextual
  simp only [key, Pack.Value.written_text, List.cons.injEq, and_true] at same
  obtain ⟨rfl, rfl, rfl, kinds, rfl, rfl⟩ := same
  have sameKind := Kind.name_injective _ _ kinds
  subst sameKind
  rfl

/-! ## Sorting -/

theorem sort_perm (locations : List Location) :
    (sort locations).Perm locations :=
  List.mergeSort_perm locations _

theorem canSort_of_isTextual
    (textual : ∀ location ∈ first, location.isTextual = true) :
    canSort first = true := by
  rw [canSort, Bool.or_eq_true, List.all_eq_true]
  exact Or.inl textual

theorem pairwise_sort
    (textual : ∀ location ∈ first, location.isTextual = true) :
    (sort first).Pairwise fun location other =>
      ¬ other.key < location.key := by
  have byKey :
      sort first =
        first.mergeSort fun location other =>
          decide (¬ other.key < location.key) := by
    have same := List.map_mergeSort (f := id) (r := atMost)
      (s := fun location other => decide (¬ other.key < location.key))
      (l := first) fun location member other alsoMember =>
        atMost_eq (textual location member) (textual other alsoMember)
    simpa [sort] using same
  have sorted :
      (sort first).Pairwise fun location other =>
        decide (¬ other.key < location.key) = true := by
    rw [byKey]
    apply List.pairwise_mergeSort
    · intro location middle other before after
      simp only [decide_eq_true_eq] at before after ⊢
      exact List.le_trans before after
    · intro location other
      simp only [Bool.or_eq_true, decide_eq_true_eq]
      exact List.le_total location.key other.key
  simpa only [decide_eq_true_eq] using sorted

/-- Locations that are told apart by texts are put in the same order however
they are listed. -/
theorem sort_eq_of_perm
    (textual : ∀ location ∈ second, location.isTextual = true)
    (perm : first.Perm second) :
    sort first = sort second := by
  have firstTextual : ∀ location ∈ first, location.isTextual = true :=
    fun location member => textual location (perm.mem_iff.1 member)
  have antisymmetric :
      ∀ location other, location ∈ sort first → other ∈ sort second →
        ¬ other.key < location.key → ¬ location.key < other.key →
          location = other := by
    intro location other member alsoMember before after
    exact
      eq_of_key_eq
        (firstTextual location ((sort_perm first).mem_iff.1 member))
        (textual other ((sort_perm second).mem_iff.1 alsoMember))
        (List.le_antisymm before after)
  exact List.Perm.eq_of_pairwise antisymmetric (pairwise_sort firstTextual)
    (pairwise_sort textual)
    (((sort_perm first).trans perm).trans (sort_perm second).symm)

end CrateShelf.Location
