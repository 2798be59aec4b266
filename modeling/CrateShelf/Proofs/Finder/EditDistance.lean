import CrateShelf.Finder.EditDistance
import Mathlib.Order.Bounds.Basic
import Mathlib.Order.MinMax

/-!
# Edit scripts

A script turns a text into another by edits of single characters, one after
the other and anywhere in the text.  Its edits can be put in the order of the
characters without making them more: then each character of one text is kept
or edited once.  The rows hold the least cost of this for all beginnings of
the texts.

Main statement: the edit distance is the number of edits of a shortest script;
so it is symmetric, zero only for equal texts, and no longer than a detour.
-/

namespace CrateShelf.Finder

variable
    {first second third : List Char}
    {char target : Char}
    {count : Nat}

/-! ## Scripts -/

/-- Whether a text becomes another by inserting, deleting or substituting one
character. -/
inductive IsEdit : List Char → List Char → Prop where
  | insertion (before after : List Char) (new : Char) :
      IsEdit (before ++ after) (before ++ new :: after)
  | deletion (before after : List Char) (old : Char) :
      IsEdit (before ++ old :: after) (before ++ after)
  | substitution (before after : List Char) (old new : Char) :
      IsEdit (before ++ old :: after) (before ++ new :: after)

/-- Whether a text becomes another by so many edits, one after the other. -/
inductive EditsInto : Nat → List Char → List Char → Prop where
  | none (text : List Char) : EditsInto 0 text text
  | more {count : Nat} {first second third : List Char} :
      IsEdit first second → EditsInto count second third →
        EditsInto (count + 1) first third

theorem IsEdit.symm (edit : IsEdit first second) : IsEdit second first := by
  cases edit with
  | insertion before after new => exact .deletion before after new
  | deletion before after old => exact .insertion before after old
  | substitution before after old new =>
      exact .substitution before after new old

theorem IsEdit.reverse (edit : IsEdit first second) :
    IsEdit first.reverse second.reverse := by
  cases edit with
  | insertion before after new =>
      simpa using IsEdit.insertion after.reverse before.reverse new
  | deletion before after old =>
      simpa using IsEdit.deletion after.reverse before.reverse old
  | substitution before after old new =>
      simpa using IsEdit.substitution after.reverse before.reverse old new

theorem IsEdit.cons (edit : IsEdit first second) (char : Char) :
    IsEdit (char :: first) (char :: second) := by
  cases edit with
  | insertion before after new => exact .insertion (char :: before) after new
  | deletion before after old => exact .deletion (char :: before) after old
  | substitution before after old new =>
      exact .substitution (char :: before) after old new

theorem EditsInto.trans
    {more : Nat}
    (script : EditsInto count first second)
    (further : EditsInto more second third) :
    EditsInto (count + more) first third := by
  induction script with
  | none => rwa [Nat.zero_add]
  | more edit _ inductionStep =>
      rw [Nat.add_right_comm]
      exact .more edit (inductionStep further)

theorem EditsInto.symm (script : EditsInto count first second) :
    EditsInto count second first := by
  induction script with
  | none text => exact .none text
  | more edit _ inductionStep =>
      exact inductionStep.trans (.more edit.symm (.none _))

theorem EditsInto.reverse (script : EditsInto count first second) :
    EditsInto count first.reverse second.reverse := by
  induction script with
  | none text => exact .none text.reverse
  | more edit _ inductionStep => exact .more edit.reverse inductionStep

theorem EditsInto.cons
    (script : EditsInto count first second)
    (char : Char) :
    EditsInto count (char :: first) (char :: second) := by
  induction script with
  | none text => exact .none (char :: text)
  | more edit _ inductionStep => exact .more (edit.cons char) inductionStep

theorem editsInto_zero_iff : EditsInto 0 first second ↔ first = second := by
  constructor
  · rintro ⟨⟩
    rfl
  · rintro rfl
    exact .none first

/-! ## Edits in order -/

/-- Whether a text becomes another by so many edits in the order of the
characters: each is inserted or deleted, or stands for one of the other text,
which is an edit if the two differ. -/
inductive Aligned : Nat → List Char → List Char → Prop where
  | empty : Aligned 0 [] []
  | insertion {count : Nat} {first second : List Char} (new : Char) :
      Aligned count first second → Aligned (count + 1) first (new :: second)
  | deletion {count : Nat} {first second : List Char} (old : Char) :
      Aligned count first second → Aligned (count + 1) (old :: first) second
  | pairing {count : Nat} {first second : List Char} (old new : Char) :
      Aligned count first second →
        Aligned (count + if old = new then 0 else 1)
          (old :: first) (new :: second)

theorem Aligned.editsInto (aligned : Aligned count first second) :
    EditsInto count first second := by
  induction aligned with
  | empty => exact .none []
  | insertion new _ inductionStep =>
      exact inductionStep.trans (.more (.insertion [] _ new) (.none _))
  | deletion old _ inductionStep =>
      exact .more (.deletion [] _ old) inductionStep
  | pairing old new _ inductionStep =>
      split_ifs with same
      · rw [same]
        exact inductionStep.cons new
      · exact .more (.substitution [] _ old new) (inductionStep.cons new)

/-- Whether a text becomes another by at most so many edits in order. -/
def AlignedWithin (count : Nat) (first second : List Char) : Prop :=
  ∃ fewer ≤ count, Aligned fewer first second

namespace AlignedWithin

theorem mono
    {more : Nat}
    (within : AlignedWithin count first second)
    (most : count ≤ more) :
    AlignedWithin more first second := by
  obtain ⟨fewer, least, aligned⟩ := within
  exact ⟨fewer, least.trans most, aligned⟩

theorem insertion
    (within : AlignedWithin count first second)
    (new : Char) :
    AlignedWithin (count + 1) first (new :: second) := by
  obtain ⟨fewer, least, aligned⟩ := within
  exact ⟨fewer + 1, Nat.succ_le_succ least, aligned.insertion new⟩

theorem deletion
    (within : AlignedWithin count first second)
    (old : Char) :
    AlignedWithin (count + 1) (old :: first) second := by
  obtain ⟨fewer, least, aligned⟩ := within
  exact ⟨fewer + 1, Nat.succ_le_succ least, aligned.deletion old⟩

theorem pairing
    (within : AlignedWithin count first second)
    (old new : Char) :
    AlignedWithin (count + if old = new then 0 else 1)
      (old :: first) (new :: second) := by
  obtain ⟨fewer, least, aligned⟩ := within
  exact ⟨_, Nat.add_le_add_right least _, aligned.pairing old new⟩

theorem refl (text : List Char) : AlignedWithin 0 text text := by
  induction text with
  | nil => exact ⟨0, Nat.le_refl 0, .empty⟩
  | cons char _ inductionStep =>
      simpa using inductionStep.pairing char char

theorem append_left
    (within : AlignedWithin count first second)
    (before : List Char) :
    AlignedWithin count (before ++ first) (before ++ second) := by
  induction before with
  | nil => exact within
  | cons char _ inductionStep =>
      simpa using inductionStep.pairing char char

end AlignedWithin

theorem IsEdit.alignedWithin (edit : IsEdit first second) :
    AlignedWithin 1 first second := by
  cases edit with
  | insertion before after new =>
      exact ((AlignedWithin.refl after).insertion new).append_left before
  | deletion before after old =>
      exact ((AlignedWithin.refl after).deletion old).append_left before
  | substitution before after old new =>
      refine (AlignedWithin.append_left ?_ before)
      refine ((AlignedWithin.refl after).pairing old new).mono ?_
      split_ifs <;> omega

/-- Edits in order after others can be put in one order with them: what is
done to a character twice is done once, or not at all. -/
theorem Aligned.trans
    {more : Nat}
    (aligned : Aligned count first second)
    (further : Aligned more second third) :
    AlignedWithin (count + more) first third := by
  induction aligned generalizing more third with
  | empty => exact ⟨more, Nat.le_add_left _ _, further⟩
  | deletion old _ inductionStep =>
      exact ((inductionStep further).deletion old).mono (by omega)
  | @insertion count first second middle _ inductionStep =>
      generalize shape : middle :: second = whole at further
      induction further with
      | empty => cases shape
      | insertion new _ inserted =>
          exact ((inserted shape).insertion new).mono (by omega)
      | deletion _ further =>
          obtain ⟨rfl, rfl⟩ := List.cons.inj shape
          exact (inductionStep further).mono (by omega)
      | pairing _ new further =>
          obtain ⟨rfl, rfl⟩ := List.cons.inj shape
          exact ((inductionStep further).insertion new).mono (by omega)
  | @pairing count first second old middle _ inductionStep =>
      generalize shape : middle :: second = whole at further
      induction further with
      | empty => cases shape
      | insertion new _ inserted =>
          exact ((inserted shape).insertion new).mono (by omega)
      | deletion _ further =>
          obtain ⟨rfl, rfl⟩ := List.cons.inj shape
          exact ((inductionStep further).deletion old).mono (by omega)
      | pairing _ new further =>
          obtain ⟨rfl, rfl⟩ := List.cons.inj shape
          refine ((inductionStep further).pairing old new).mono ?_
          -- A character that was kept twice is kept.
          split_ifs with _ keptFirst keptSecond <;> simp_all <;> omega

/-- The edits of a script can be put in order. -/
theorem EditsInto.alignedWithin (script : EditsInto count first second) :
    AlignedWithin count first second := by
  induction script with
  | none text => exact .refl text
  | more edit _ inductionStep =>
      obtain ⟨one, leastOne, isFirst⟩ := edit.alignedWithin
      obtain ⟨fewer, least, aligned⟩ := inductionStep
      exact (isFirst.trans aligned).mono (by omega)

/-! ## Rows of least costs -/

/-- Whether a number is the least number of edits in order. -/
def IsCost (first second : List Char) (cost : Nat) : Prop :=
  IsLeast {count | Aligned count first second} cost

theorem isCost_nil_left (second : List Char) :
    IsCost [] second second.length := by
  constructor
  · induction second with
    | nil => exact .empty
    | cons new _ inductionStep => exact inductionStep.insertion new
  · intro count aligned
    generalize shape : ([] : List Char) = first at aligned
    induction aligned with
    | empty => exact Nat.le_refl 0
    | insertion _ _ inductionStep =>
        exact Nat.succ_le_succ (inductionStep shape)
    | deletion => cases shape
    | pairing => cases shape

/-- Every character of a text is deleted if nothing is left. -/
theorem isCost_nil_right (first : List Char) :
    IsCost first [] first.length := by
  constructor
  · induction first with
    | nil => exact .empty
    | cons old _ inductionStep => exact inductionStep.deletion old
  · intro count aligned
    generalize shape : ([] : List Char) = second at aligned
    induction aligned with
    | empty => exact Nat.le_refl 0
    | deletion _ _ inductionStep =>
        exact Nat.succ_le_succ (inductionStep shape)
    | insertion => cases shape
    | pairing => cases shape

/-- The least cost for two texts with one more character each. -/
theorem isCost_cons
    {diagonal above left : Nat}
    (isDiagonal : IsCost first second diagonal)
    (isAbove : IsCost first (target :: second) above)
    (isLeft : IsCost (char :: first) second left) :
    IsCost (char :: first) (target :: second)
      (min (min (above + 1) (left + 1))
        (diagonal + if char = target then 0 else 1)) := by
  constructor
  · rcases min_choice (min (above + 1) (left + 1))
      (diagonal + if char = target then 0 else 1) with same | same
    · rw [same]
      rcases min_choice (above + 1) (left + 1) with same | same
      · rw [same]
        exact isAbove.1.deletion char
      · rw [same]
        exact isLeft.1.insertion target
    · rw [same]
      exact isDiagonal.1.pairing char target
  · rintro count aligned
    cases aligned with
    | insertion _ aligned =>
        have least := isLeft.2 aligned
        omega
    | deletion _ aligned =>
        have least := isAbove.2 aligned
        omega
    | pairing _ _ aligned =>
        have least := isDiagonal.2 aligned
        omega

/-- Whether the numbers of a row are the least costs for one text and the
growing beginnings of another.  Texts are given with the last character first:
the first beginning, and then the characters that it grows by. -/
inductive IsRow (first : List Char) :
    List Char → List Char → List Nat → Prop where
  | last {second : List Char} {cost : Nat} :
      IsCost first second cost → IsRow first second [] [cost]
  | more {second targets : List Char} {target : Char} {cost : Nat}
      {others : List Nat} :
      IsCost first second cost → IsRow first (target :: second) targets others →
        IsRow first second (target :: targets) (cost :: others)

section Rows

variable
    {targets longer shorter : List Char}
    {row previous : List Nat}

theorem IsRow.exists_cons (isRow : IsRow first second targets row) :
    ∃ cost others, row = cost :: others ∧ IsCost first second cost := by
  cases isRow with
  | last isCost => exact ⟨_, [], rfl, isCost⟩
  | more isCost => exact ⟨_, _, rfl, isCost⟩

/-- The last number of a row is about the whole text. -/
theorem IsRow.exists_getLast? (isRow : IsRow first second targets row) :
    ∃ cost, row.getLast? = some cost ∧
      IsCost first (targets.reverse ++ second) cost := by
  induction isRow with
  | last isCost => exact ⟨_, rfl, isCost⟩
  | more _ _ inductionStep =>
      obtain ⟨cost, isLast, isCost⟩ := inductionStep
      refine ⟨cost, ?_, ?_⟩
      · rw [List.getLast?_cons, isLast]
        rfl
      · rwa [List.reverse_cons, List.append_assoc]

/-- A row that is filled in beside a cost is a row. -/
theorem IsRow.fillRow
    {left : Nat}
    (isRow : IsRow first second targets previous)
    (isLeft : IsCost (char :: first) second left) :
    IsRow (char :: first) second targets
      (left :: fillRow char left targets previous) := by
  induction isRow generalizing left with
  | last => exact .last isLeft
  | more isDiagonal isRow inductionStep =>
      obtain ⟨above, others, rfl, isAbove⟩ := isRow.exists_cons
      exact .more isLeft (inductionStep (isCost_cons isDiagonal isAbove isLeft))

theorem IsRow.nextRow
    (isRow : IsRow first [] shorter previous)
    (char : Char) :
    IsRow (char :: first) [] shorter (nextRow shorter previous char) := by
  obtain ⟨cost, others, rfl, isCost⟩ := isRow.exists_cons
  have length := IsLeast.unique isCost (isCost_nil_right first)
  apply isRow.fillRow
  rw [length]
  exact isCost_nil_right (char :: first)

theorem isRow_range' (second targets : List Char) :
    IsRow [] second targets
      (List.range' second.length (targets.length + 1)) := by
  induction targets generalizing second with
  | nil => exact .last (isCost_nil_left second)
  | cons target targets inductionStep =>
      exact .more (isCost_nil_left second) (inductionStep (target :: second))

theorem isRow_firstRow (shorter : List Char) :
    IsRow [] [] shorter (firstRow shorter) := by
  rw [firstRow, List.range_eq_range']
  exact isRow_range' [] shorter

theorem IsRow.foldl_nextRow
    (isRow : IsRow first [] shorter row)
    (longer : List Char) :
    IsRow (longer.reverse ++ first) [] shorter
      (longer.foldl (Finder.nextRow shorter) row) := by
  induction longer generalizing first row with
  | nil => exact isRow
  | cons char longer inductionStep =>
      rw [List.reverse_cons, List.append_assoc]
      exact inductionStep (isRow.nextRow char)

theorem isRow_lastRow (longer shorter : List Char) :
    IsRow longer.reverse [] shorter (lastRow longer shorter) := by
  have isRow := (isRow_firstRow shorter).foldl_nextRow longer
  rwa [List.append_nil] at isRow

end Rows

/-! ## The shortest script -/

/-- The least cost of edits in order is the length of a shortest script; it
does not matter from which end the texts are read. -/
theorem IsCost.isLeast_editsInto
    {cost : Nat}
    (isCost : IsCost first.reverse second.reverse cost) :
    IsLeast {count | EditsInto count first second} cost := by
  constructor
  · have script := isCost.1.editsInto.reverse
    rwa [List.reverse_reverse, List.reverse_reverse] at script
  · intro count script
    obtain ⟨fewer, least, aligned⟩ := script.reverse.alignedWithin
    exact (isCost.2 aligned).trans least

theorem isLeast_distanceFrom (longer shorter : List Char) :
    IsLeast {count | EditsInto count longer shorter}
      (distanceFrom longer shorter) := by
  apply IsCost.isLeast_editsInto
  rw [distanceFrom]
  split_ifs with isEmpty
  · rw [List.isEmpty_iff.1 isEmpty, ← List.length_reverse]
    exact isCost_nil_right longer.reverse
  · obtain ⟨cost, isLast, isCost⟩ := (isRow_lastRow longer shorter).exists_getLast?
    rw [isLast]
    rwa [List.append_nil] at isCost

theorem isLeast_distance (first second : List Char) :
    IsLeast {count | EditsInto count first second}
      (distance first second) := by
  rw [distance]
  split_ifs with shorter
  · have isLeast := isLeast_distanceFrom second first
    exact ⟨isLeast.1.symm, fun count script => isLeast.2 script.symm⟩
  · exact isLeast_distanceFrom first second

/--
The edit distance is the number of edits of a shortest script that turns one
text into the other.  So it is the same in both directions, zero exactly for
equal texts, and at most the sum of the distances to and from a third text.
-/
theorem isLeast_editDistance (first second : String) :
    IsLeast {count | EditsInto count first.toList second.toList}
        (editDistance first second) ∧
      editDistance first second = editDistance second first ∧
      (editDistance first second = 0 ↔ first = second) ∧
      ∀ third, editDistance first third ≤
        editDistance first second + editDistance second third := by
  have isLeast := isLeast_distance first.toList second.toList
  have isLeastBack := isLeast_distance second.toList first.toList
  refine ⟨isLeast, ?_, ?_, fun third => ?_⟩
  · exact Nat.le_antisymm (isLeast.2 isLeastBack.1.symm)
      (isLeastBack.2 isLeast.1.symm)
  · rw [← String.toList_inj, ← editsInto_zero_iff]
    constructor
    · intro zero
      exact zero ▸ isLeast.1
    · intro same
      exact Nat.le_zero.1 (isLeast.2 same)
  · exact (isLeast_distance first.toList third.toList).2
      (isLeast.1.trans (isLeast_distance second.toList third.toList).1)

end CrateShelf.Finder
