
/-!
# Rankings

A ranking keeps the best entries it has seen, at most a given number of them:
the higher quality is better, then the earlier start, then the earlier line.
Qualities may be taken from any order.  The entries are kept in a heap with the
worst one at the top, and put in order when they are asked for.
-/

namespace CrateShelf.Finder.Heap

/-!
## Heaps

The items of an array stand in a tree: below an item stand those at twice its
place and one, and at twice its place and two.  In a heap no item is less than
the one above it, so that the least item stands at the top.  An item that
comes in somewhere is moved along the tree until this is so again.
-/

variable {α : Type} [Ord α] {size : Nat}

/-- Whether an item is less than another. -/
def isLess (first second : α) : Bool :=
  (compare first second).isLT

/-- The place above a place that is not the top. -/
def above (place : Nat) : Nat :=
  (place - 1) / 2

theorem above_lt {place : Nat} (notTop : place ≠ 0) : above place < place := by
  unfold above
  omega

/-- Moves an item up as long as it is less than the one above it. -/
def climb (heap : Vector α size) (place : Nat) (inside : place < size) :
    Vector α size :=
  if notTop : place ≠ 0 then
    have insideAbove := Nat.lt_trans (above_lt notTop) inside
    if isLess heap[place] heap[above place] then
      climb (heap.swap place (above place)) (above place) insideAbove
    else heap
  else heap
termination_by place
decreasing_by exact above_lt notTop

/-- The place of the lesser of the items below a place, and of two equal ones
the second. -/
def lesserBelow (heap : Vector α size) (place : Nat)
    (inside : 2 * place + 1 < size) : Nat :=
  if insideToo : 2 * place + 2 < size then
    if isLess heap[2 * place + 1] heap[2 * place + 2] then 2 * place + 1
    else 2 * place + 2
  else 2 * place + 1

theorem lesserBelow_lt
    (heap : Vector α size)
    {place : Nat}
    (inside : 2 * place + 1 < size) :
    lesserBelow heap place inside < size := by
  unfold lesserBelow
  split
  · split <;> omega
  · omega

theorem lt_lesserBelow
    (heap : Vector α size)
    {place : Nat}
    (inside : 2 * place + 1 < size) :
    place < lesserBelow heap place inside := by
  unfold lesserBelow
  split
  · split <;> omega
  · omega

/-- Moves an item down as far as there are items below, each time in exchange
for the lesser of them, and up again from there. -/
def sink (heap : Vector α size) (place : Nat) (inside : place < size) :
    Vector α size :=
  if some : 2 * place + 1 < size then
    have insideBelow := lesserBelow_lt heap some
    sink (heap.swap place (lesserBelow heap place some))
      (lesserBelow heap place some) insideBelow
  else climb heap place inside
termination_by size - place
decreasing_by
  have further := lt_lesserBelow heap some
  omega

/-- The heap with one more item. -/
def push (heap : Array α) (item : α) : Array α :=
  (climb (heap.toVector.push item) heap.size (Nat.lt_succ_self _)).toArray

/-- The heap with an item in the place of the least one. -/
def replaceLeast (heap : Array α) (item : α) : Array α :=
  if some : 0 < heap.size then (sink (heap.toVector.set 0 item) 0 some).toArray
  else heap

end CrateShelf.Finder.Heap

namespace CrateShelf.Finder

/-! ## Entries -/

/-- A scored line. -/
structure Entry (Quality : Type) where
  quality : Quality
  start : Nat
  line : Nat
deriving DecidableEq, Repr

namespace Entry

variable {Quality : Type} [Ord Quality]

/-- Entries are compared so that the better one is the greater. -/
instance : Ord (Entry Quality) where
  compare := compareLex (compareOn quality)
    (compareLex (fun first second => compareOn start second first)
      (fun first second => compareOn line second first))

/-- Entries in order, the best first. -/
def bestFirst (entries : List (Entry Quality)) : List (Entry Quality) :=
  entries.mergeSort fun first second => (compare first second).isGE

end Entry

/-- The best entries seen so far, in a heap with the worst of them at the top;
none are kept unless the limit is positive. -/
structure Ranking (Quality : Type) where
  limit : Int
  heap : Array (Entry Quality)
deriving Repr

namespace Ranking

variable {Quality : Type} [Ord Quality]

/-- A ranking of at most `limit` entries that has seen none. -/
def empty (limit : Int) : Ranking Quality := ⟨limit, #[]⟩

/-- The ranking after one more entry: it comes in as long as there is room, and
then only in the place of one that is worse. -/
def push (ranking : Ranking Quality) (entry : Entry Quality) :
    Ranking Quality :=
  if ranking.limit ≤ 0 then ranking
  else if ranking.heap.size < ranking.limit then
    { ranking with heap := Heap.push ranking.heap entry }
  else
    match ranking.heap[0]? with
    | none => ranking
    | some worst =>
      if Heap.isLess worst entry then
        { ranking with heap := Heap.replaceLeast ranking.heap entry }
      else ranking

/-- The number of entries kept. -/
def size (ranking : Ranking Quality) : Nat :=
  ranking.heap.size

/-- The lines of the entries kept, the best first. -/
def lines (ranking : Ranking Quality) : List Nat :=
  (Entry.bestFirst ranking.heap.toList).map (·.line)

end Ranking

end CrateShelf.Finder
