import CrateShelf.Finder.Ranking
import Mathlib.Data.Nat.Basic
import Mathlib.Order.Basic

/-!
# Items on their way through a heap

An item that is moved leaves the order of all others as it is: the items below
the place where it stands are not less than the one above that place.  So the
order is lost at this place only, and is restored where the item comes to rest.

Main statements: a heap to which an item is added, or in which one takes the
place of the least, is a heap of these items; and nothing in a heap is less
than its first item.
-/

namespace CrateShelf.Finder.Heap

variable
    {α : Type}
    [Ord α]
    {size place hole : Nat}

/-! ## The items -/

theorem climb_perm
    (heap : Vector α size)
    (inside : place < size) :
    (climb heap place inside).Perm heap := by
  fun_induction climb heap place inside with
  | case1 heap place inside notTop insideAbove _ inductionStep =>
      exact inductionStep.trans (Vector.swap_perm inside insideAbove)
  | case2 => exact .rfl
  | case3 => exact .rfl

theorem sink_perm
    (heap : Vector α size)
    (inside : place < size) :
    (sink heap place inside).Perm heap := by
  fun_induction sink heap place inside with
  | case1 heap place inside some insideBelow inductionStep =>
      exact inductionStep.trans (Vector.swap_perm inside insideBelow)
  | case2 heap place inside => exact climb_perm heap inside

theorem toList_push_perm (heap : Array α) (item : α) :
    (push heap item).toList.Perm (item :: heap.toList) := by
  have moved := (climb_perm (heap.toVector.push item)
    (Nat.lt_succ_self heap.size)).toList
  have added : (heap.toVector.push item).toList = heap.toList ++ [item] := by
    simp
  rw [added] at moved
  exact moved.trans (List.perm_append_singleton item heap.toList)

/-- The item that was at the top is replaced. -/
theorem toList_replaceLeast_perm
    {heap : Array α}
    {least : α}
    {others : List α}
    (shape : heap.toList = least :: others)
    (item : α) :
    (replaceLeast heap item).toList.Perm (item :: others) := by
  have some : 0 < heap.size := by
    rw [← Array.length_toList, shape]
    exact Nat.succ_pos _
  have moved := (sink_perm (heap.toVector.set 0 item) some).toList
  have replaced : (heap.toVector.set 0 item).toList = item :: others := by
    simp [shape]
  rw [replaced] at moved
  rwa [replaceLeast, dif_pos some]

/-! ## Their order -/

/-- Whether the items at two places are in order, if there are such items. -/
def InOrder (heap : Array α) (upper lower : Nat) : Prop :=
  ∀ first ∈ heap[upper]?, ∀ second ∈ heap[lower]?,
    (compare first second).isLE = true

/-- Whether no item is less than the one above it. -/
def IsHeap (heap : Array α) : Prop :=
  ∀ place, place ≠ 0 → InOrder heap (above place) place

/-- Whether no item is less than the one above it, an item that is on its way
through a place left out. -/
structure IsHeapBut (heap : Array α) (hole : Nat) : Prop where
  others : ∀ place, place ≠ 0 → place ≠ hole → above place ≠ hole →
    InOrder heap (above place) place
  across : hole ≠ 0 → ∀ place, place ≠ 0 → above place = hole →
    InOrder heap (above hole) place

theorem isHeap_empty : IsHeap (#[] : Array α) := by
  rintro place - _ ⟨⟩

/-! ## Exchanging two items -/

/-- The place that an item comes from when the items at two places are
exchanged. -/
def exchange (first second place : Nat) : Nat :=
  if place = first then second else if place = second then first else place

section Exchange

variable
    {heap : Array α}
    {first second upper lower : Nat}

@[simp]
theorem exchange_left (first second : Nat) :
    exchange first second first = second :=
  if_pos rfl

@[simp]
theorem exchange_right (first second : Nat) :
    exchange first second second = first := by
  unfold exchange
  split
  · assumption
  · rw [if_pos rfl]

theorem exchange_of_ne
    (notFirst : place ≠ first)
    (notSecond : place ≠ second) :
    exchange first second place = place := by
  rw [exchange, if_neg notFirst, if_neg notSecond]

theorem inOrder_swap_iff
    (insideFirst : first < heap.size)
    (insideSecond : second < heap.size) :
    InOrder (heap.swap first second) upper lower ↔
      InOrder heap (exchange first second upper)
        (exchange first second lower) := by
  have found : ∀ place, (heap.swap first second)[place]? =
      heap[exchange first second place]? := by
    intro place
    rw [Array.getElem?_swap]
    by_cases isSecond : place = second
    · rw [isSecond, exchange_right, if_pos rfl,
        Array.getElem?_eq_getElem insideFirst]
    · rw [if_neg (Ne.symm isSecond)]
      by_cases isFirst : place = first
      · rw [isFirst, exchange_left, if_pos rfl,
          Array.getElem?_eq_getElem insideSecond]
      · rw [exchange_of_ne isFirst isSecond, if_neg (Ne.symm isFirst)]
  simp only [InOrder, found]

end Exchange

/-! ## The order around a place -/

/-- Whether the items below a place are not less than the item there. -/
def Covers (heap : Array α) (place : Nat) : Prop :=
  ∀ below, below ≠ 0 → above below = place → InOrder heap place below

theorem IsHeapBut.isHeap
    {heap : Array α}
    (isHeapBut : IsHeapBut heap hole)
    (covers : Covers heap hole)
    (settled : hole ≠ 0 → InOrder heap (above hole) hole) :
    IsHeap heap := by
  intro place notTop
  by_cases here : place = hole
  · rw [here] at notTop ⊢
    exact settled notTop
  · by_cases below : above place = hole
    · rw [below]
      exact covers place notTop below
    · exact isHeapBut.others place notTop here below

theorem inOrder_iff
    {heap : Vector α size}
    {upper lower : Nat}
    (insideUpper : upper < size)
    (insideLower : lower < size) :
    InOrder heap.toArray upper lower ↔
      (compare heap[upper] heap[lower]).isLE = true := by
  simp [InOrder, insideUpper, insideLower]

theorem inOrder_of_isLess
    {heap : Vector α size}
    {first second : Nat}
    (insideFirst : first < size)
    (insideSecond : second < size)
    (less : isLess heap[first] heap[second] = true) :
    InOrder heap.toArray first second := by
  rw [inOrder_iff insideFirst insideSecond]
  rw [isLess, Ordering.isLT_iff_eq_lt] at less
  rw [less]
  rfl

/-- Two places are below each place. -/
theorem above_eq_iff :
    place ≠ 0 ∧ above place = hole ↔
      place = 2 * hole + 1 ∨ place = 2 * hole + 2 := by
  unfold above
  omega

theorem above_lesserBelow
    (heap : Vector α size)
    (some : 2 * hole + 1 < size) :
    lesserBelow heap hole some ≠ 0 ∧
      above (lesserBelow heap hole some) = hole := by
  rw [above_eq_iff, lesserBelow]
  split
  · split
    · exact Or.inl rfl
    · exact Or.inr rfl
  · exact Or.inl rfl

/-- Nothing is below the last places. -/
theorem getElem?_eq_none_of_le
    {β : Type}
    {heap : Array β}
    (last : heap.size ≤ 2 * hole + 1)
    (notTop : place ≠ 0)
    (below : above place = hole) :
    heap[place]? = none := by
  apply Array.getElem?_eq_none
  rcases above_eq_iff.1 ⟨notTop, below⟩ with same | same <;> omega

theorem covers_of_le
    {heap : Array α}
    (last : heap.size ≤ 2 * hole + 1) :
    Covers heap hole := by
  intro place notTop below _ _ second isSecond
  rw [getElem?_eq_none_of_le last notTop below] at isSecond
  cases isSecond

/-- An item is exchanged with one below it that may stand above the other. -/
theorem IsHeapBut.swap_below
    {heap : Array α}
    {below : Nat}
    (isHeapBut : IsHeapBut heap hole)
    (inside : hole < heap.size)
    (insideBelow : below < heap.size)
    (notTop : below ≠ 0)
    (isBelow : above below = hole)
    (least : ∀ place, place ≠ 0 → above place = hole →
      InOrder heap below place) :
    IsHeapBut (heap.swap hole below) below := by
  have isAbove := above_lt notTop
  rw [isBelow] at isAbove
  refine ⟨?_, ?_⟩
  · intro place placeNotTop notBelow notBeneath
    rw [inOrder_swap_iff]
    by_cases here : place = hole
    · rw [here] at placeNotTop ⊢
      have higher := above_lt placeNotTop
      rw [exchange_left, exchange_of_ne higher.ne (higher.trans isAbove).ne]
      exact isHeapBut.across placeNotTop below notTop isBelow
    · rw [exchange_of_ne here notBelow]
      by_cases beside : above place = hole
      · rw [beside, exchange_left]
        exact least place placeNotTop beside
      · rw [exchange_of_ne beside notBeneath]
        exact isHeapBut.others place placeNotTop here beside
  · intro _ place placeNotTop beneath
    have lower := above_lt placeNotTop
    rw [beneath] at lower
    rw [inOrder_swap_iff, isBelow, exchange_left,
      exchange_of_ne (isAbove.trans lower).ne' lower.ne']
    have order := isHeapBut.others place placeNotTop (isAbove.trans lower).ne'
      (beneath ▸ isAbove.ne')
    rwa [beneath] at order

/-- An item that comes in at the end of a heap is the only one out of order. -/
theorem isHeapBut_push
    {heap : Array α}
    (isHeap : IsHeap heap)
    (item : α) :
    IsHeapBut (heap.push item) heap.size ∧
      Covers (heap.push item) heap.size := by
  have last : (heap.push item).size ≤ 2 * heap.size + 1 := by
    rw [Array.size_push]
    omega
  refine ⟨⟨?_, ?_⟩, covers_of_le last⟩
  · intro place notTop notNew belowNew first isFirst second isSecond
    rw [Array.getElem?_push, if_neg belowNew] at isFirst
    rw [Array.getElem?_push, if_neg notNew] at isSecond
    exact isHeap place notTop first isFirst second isSecond
  · intro _ place notTop below _ _ second isSecond
    rw [getElem?_eq_none_of_le last notTop below] at isSecond
    cases isSecond

/-! ## On the way up -/

variable [Std.TransOrd α]

theorem inOrder_of_not_isLess
    {heap : Vector α size}
    {first second : Nat}
    (insideFirst : first < size)
    (insideSecond : second < size)
    (notLess : ¬ isLess heap[first] heap[second] = true) :
    InOrder heap.toArray second first := by
  rw [isLess, Ordering.isLT_iff_eq_lt] at notLess
  rw [inOrder_iff insideSecond insideFirst, ← Std.OrientedCmp.isGE_iff_isLE,
    Ordering.isGE_iff_ne_lt]
  exact notLess

theorem InOrder.refl (heap : Array α) (place : Nat) :
    InOrder heap place place := by
  intro first isFirst second isSecond
  cases isFirst.symm.trans isSecond
  exact Std.ReflOrd.isLE_rfl

theorem InOrder.trans
    {heap : Array α}
    {upper middle lower : Nat}
    (inside : middle < heap.size)
    (before : InOrder heap upper middle)
    (after : InOrder heap middle lower) :
    InOrder heap upper lower := by
  intro first isFirst second isSecond
  have isMiddle := Array.getElem?_eq_getElem inside
  exact Std.TransOrd.isLE_trans (before first isFirst _ isMiddle)
    (after _ isMiddle second isSecond)

/-- Nothing in a heap is less than its first item. -/
theorem IsHeap.inOrder_top
    {heap : Array α}
    (isHeap : IsHeap heap)
    (inside : place < heap.size) :
    InOrder heap 0 place := by
  induction place using Nat.strongRecOn with
  | ind place inductionStep =>
      by_cases top : place = 0
      · rw [top]
        exact .refl heap 0
      · have insideAbove := Nat.lt_trans (above_lt top) inside
        exact .trans insideAbove
          (inductionStep (above place) (above_lt top) insideAbove)
          (isHeap place top)

/-- An item that is less than the one above it is exchanged with that. -/
theorem IsHeapBut.swap_above
    {heap : Array α}
    (isHeapBut : IsHeapBut heap hole)
    (notTop : hole ≠ 0)
    (inside : hole < heap.size)
    (insideAbove : above hole < heap.size)
    (less : InOrder heap hole (above hole)) :
    IsHeapBut (heap.swap hole (above hole)) (above hole) ∧
      Covers (heap.swap hole (above hole)) (above hole) := by
  have isAbove := above_lt notTop
  -- What stands beside the item comes below it.
  have beside : ∀ place, place ≠ 0 → above place = above hole →
      place ≠ hole →
        place ≠ above hole ∧ InOrder heap (above hole) place := by
    intro place placeNotTop same other
    have higher := above_lt placeNotTop
    have order := isHeapBut.others place placeNotTop other
      (same ▸ isAbove.ne)
    rw [same] at higher order
    exact ⟨higher.ne', order⟩
  refine ⟨⟨?_, ?_⟩, ?_⟩
  · intro place placeNotTop notAbove notBeside
    have notHole : place ≠ hole := fun same => notBeside (congrArg above same)
    rw [inOrder_swap_iff, exchange_of_ne notHole notAbove]
    by_cases below : above place = hole
    · rw [below, exchange_left]
      exact isHeapBut.across notTop place placeNotTop below
    · rw [exchange_of_ne below notBeside]
      exact isHeapBut.others place placeNotTop notHole below
  · intro aboveNotTop place placeNotTop same
    have further := above_lt aboveNotTop
    have order := isHeapBut.others (above hole) aboveNotTop isAbove.ne
      (further.trans isAbove).ne
    rw [inOrder_swap_iff,
      exchange_of_ne (further.trans isAbove).ne further.ne]
    by_cases here : place = hole
    · rw [here, exchange_left]
      exact order
    · obtain ⟨notAbove, orderBeside⟩ := beside place placeNotTop same here
      rw [exchange_of_ne here notAbove]
      exact order.trans insideAbove orderBeside
  · intro place placeNotTop same
    rw [inOrder_swap_iff, exchange_right]
    by_cases here : place = hole
    · rw [here, exchange_left]
      exact less
    · obtain ⟨notAbove, orderBeside⟩ := beside place placeNotTop same here
      rw [exchange_of_ne here notAbove]
      exact less.trans insideAbove orderBeside

/-- Where an item comes to rest on its way up, the order is restored. -/
theorem isHeap_climb
    {heap : Vector α size}
    (inside : place < size)
    (isHeapBut : IsHeapBut heap.toArray place)
    (covers : Covers heap.toArray place) :
    IsHeap (climb heap place inside).toArray := by
  fun_induction climb heap place inside with
  | case1 heap place inside notTop insideAbove less inductionStep =>
      obtain ⟨isHeapBut, covers⟩ := isHeapBut.swap_above notTop
        (by simpa using inside) (by simpa using insideAbove)
        (inOrder_of_isLess inside insideAbove less)
      exact inductionStep isHeapBut covers
  | case2 heap place inside notTop insideAbove notLess =>
      exact isHeapBut.isHeap covers fun _ =>
        inOrder_of_not_isLess inside insideAbove notLess
  | case3 heap place inside top =>
      exact isHeapBut.isHeap covers fun notTop => absurd notTop top

/-! ## On the way down -/

/-- The lesser item below a place is in order with both items below. -/
theorem inOrder_lesserBelow
    (heap : Vector α size)
    (some : 2 * hole + 1 < size)
    (notTop : place ≠ 0)
    (below : above place = hole) :
    InOrder heap.toArray (lesserBelow heap hole some) place := by
  rw [lesserBelow]
  rcases above_eq_iff.1 ⟨notTop, below⟩ with rfl | rfl
  · split
    · rename_i both
      split
      · exact .refl _ _
      · rename_i notLess
        exact inOrder_of_not_isLess some both notLess
    · exact .refl _ _
  · split
    · rename_i both
      split
      · rename_i less
        exact inOrder_of_isLess some both less
      · exact .refl _ _
    · rename_i alone
      intro _ _ second isSecond
      rw [Array.getElem?_eq_none (by simpa using alone)] at isSecond
      cases isSecond

/-- Where an item comes to rest on its way down and up again, the order is
restored. -/
theorem isHeap_sink
    {heap : Vector α size}
    (inside : place < size)
    (isHeapBut : IsHeapBut heap.toArray place) :
    IsHeap (sink heap place inside).toArray := by
  fun_induction sink heap place inside with
  | case1 heap place inside some insideBelow inductionStep =>
      obtain ⟨notTop, isBelow⟩ := above_lesserBelow heap some
      exact inductionStep (isHeapBut.swap_below (by simpa using inside)
        (by simpa using insideBelow) notTop isBelow
        fun place => inOrder_lesserBelow heap some)
  | case2 heap place inside last =>
      exact isHeap_climb inside isHeapBut
        (covers_of_le (by simpa using last))

/-! ## Heaps with other items -/

/-- An item added to a heap makes a heap. -/
theorem isHeap_push
    {heap : Array α}
    (isHeap : IsHeap heap)
    (item : α) :
    IsHeap (push heap item) := by
  obtain ⟨isHeapBut, covers⟩ := isHeapBut_push isHeap item
  exact isHeap_climb _ isHeapBut covers

/-- An item in the place of the least makes a heap. -/
theorem isHeap_replaceLeast
    {heap : Array α}
    (isHeap : IsHeap heap)
    (item : α) :
    IsHeap (replaceLeast heap item) := by
  rw [replaceLeast]
  split
  · rename_i some
    apply isHeap_sink
    refine ⟨?_, fun notTop => absurd rfl notTop⟩
    intro place notTop _ notBelow first isFirst second isSecond
    apply isHeap place notTop first _ second
    · simpa [Array.getElem?_set, notTop.symm] using isSecond
    · simpa [Array.getElem?_set, Ne.symm notBelow] using isFirst
  · exact isHeap

end CrateShelf.Finder.Heap
