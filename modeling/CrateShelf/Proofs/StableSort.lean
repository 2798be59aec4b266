import Mathlib.Data.List.Nodup
import Mathlib.Order.Lattice

/-!
# Stable sorting

A list is sorted stably by a key if its items are put in the order of their
keys and those with the same key stay in the order in which they were.

Main statements: this is what merging does, and a list with a different key
for each item can be sorted in one way only.
-/

namespace CrateShelf

variable {α Key : Type} [LinearOrder Key]

/-- Whether a list is another one, sorted stably by a key. -/
structure IsStableSort
    (key : α → Key)
    (items sorted : List α) : Prop where
  perm : sorted.Perm items
  pairwise : sorted.Pairwise fun first second => key first ≤ key second
  stable : ∀ value,
    sorted.filter (key · = value) = items.filter (key · = value)

/-- Merging sorts stably. -/
theorem isStableSort_mergeSort (key : α → Key) (items : List α) :
    IsStableSort key items
      (items.mergeSort fun first second => key first ≤ key second) := by
  have transitive : ∀ first second third : α,
      decide (key first ≤ key second) = true →
        decide (key second ≤ key third) = true →
          decide (key first ≤ key third) = true := by
    intro first second third lower upper
    simp only [decide_eq_true_eq] at lower upper ⊢
    exact le_trans lower upper
  have total : ∀ first second : α,
      (decide (key first ≤ key second) || decide (key second ≤ key first)) =
        true := by
    intro first second
    simpa using le_total (key first) (key second)
  refine ⟨List.mergeSort_perm _ _, ?_, ?_⟩
  · simpa using List.pairwise_mergeSort transitive total items
  · intro value
    -- The items with one key are sorted already, so they stay together.
    have sorted :
        (items.filter (key · = value)).Pairwise fun first second =>
          decide (key first ≤ key second) = true := by
      rw [List.pairwise_filter]
      apply List.pairwise_of_forall
      intro first second same alsoSame
      simp_all
    have kept :=
      (List.sublist_mergeSort transitive total sorted
        List.filter_sublist).filter (key · = value)
    simp only [List.filter_filter, Bool.and_self] at kept
    have many :=
      ((List.mergeSort_perm items fun first second =>
        key first ≤ key second).filter (key · = value)).length_eq
    exact (kept.eq_of_length many.symm).symm

/-- Where no two items have the same key, there is one order of them only. -/
theorem IsStableSort.eq_of_pairwise
    {key : α → Key}
    {items merged sorted : List α}
    (stable : IsStableSort key items merged)
    (perm : sorted.Perm items)
    (ordered : sorted.Pairwise fun first second => key first < key second) :
    merged = sorted := by
  have apart : (sorted.map key).Nodup :=
    List.pairwise_map.2 (ordered.imp ne_of_lt)
  refine List.Perm.eq_of_pairwise ?_ stable.pairwise
    (ordered.imp le_of_lt) (stable.perm.trans perm.symm)
  intro first second member alsoMember before after
  have alsoSorted : first ∈ sorted :=
    (stable.perm.trans perm.symm).mem_iff.1 member
  exact List.inj_on_of_nodup_map apart alsoSorted alsoMember
    (le_antisymm before after)

omit [LinearOrder Key] in
/-- Sorting items along with their keys sorts them by their keys. -/
theorem map_mergeSort_measured
    (key : α → Key)
    (atMost : Key → Key → Bool)
    (items : List α) :
    ((items.map fun item => (key item, item)).mergeSort
        fun first second => atMost first.1 second.1).map (·.2) =
      items.mergeSort fun first second => atMost (key first) (key second) := by
  have sorted :=
    List.map_mergeSort (l := items) (f := fun item => (key item, item))
      (r := fun first second => atMost (key first) (key second))
      (s := fun first second => atMost first.1 second.1)
      fun _ _ _ _ => rfl
  rw [← sorted, List.map_map]
  exact List.map_id _

/-- A list stays sorted stably when another value with the same key takes
the place of each item. -/
theorem IsStableSort.map
    {β : Type}
    {key : α → Key}
    {items sorted : List α}
    (stable : IsStableSort key items sorted)
    (other : β → Key)
    (value : α → β)
    (same : ∀ item ∈ items, other (value item) = key item) :
    IsStableSort other (items.map value) (sorted.map value) := by
  have sameSorted : ∀ item ∈ sorted, other (value item) = key item :=
    fun item member => same item (stable.perm.mem_iff.1 member)
  refine ⟨stable.perm.map value, ?_, ?_⟩
  · rw [List.pairwise_map]
    refine stable.pairwise.imp_of_mem ?_
    intro first second firstMember secondMember ordered
    rwa [sameSorted first firstMember, sameSorted second secondMember]
  · intro wanted
    have chosen : ∀ list : List α,
        (∀ item ∈ list, other (value item) = key item) →
          (list.map value).filter (other · = wanted) =
            (list.filter (key · = wanted)).map value := by
      intro list all
      rw [List.filter_map]
      congr 1
      apply List.filter_congr
      intro item member
      simp [all item member]
    rw [chosen sorted sameSorted, chosen items same, stable.stable]

end CrateShelf
