import CrateShelf.Source.Parsing.Reduce

/-!
# Which way of reading is better

Heads are compared by the cost of their faults.  A head that has understood
much since its last fault may cost more than one that has not, before it is
given up.
-/

namespace CrateShelf.Source

/-- What counts when heads are compared. -/
structure Merit where
  cost : Nat
  /-- How much has been understood since the last fault began. -/
  weight : Nat
  /-- Whether the head is at a fault. -/
  isFaulty : Bool

/-- Which of two heads is better. -/
inductive Preference where
  /-- The first is better, and the second is given up. -/
  | onlyFirst
  | first
  | neither
  | second
  /-- The second is better, and the first is given up. -/
  | onlySecond
deriving DecidableEq

namespace Merit

/-- The difference in cost, times what has been understood, from which on a
head is given up. -/
def greatestDifference : Nat := 18 * Cost.tree

/-- Which of two heads is better. -/
def compare (first second : Merit) : Preference :=
  if !first.isFaulty && second.isFaulty then
    if first.cost < second.cost then .onlyFirst else .first
  else if first.isFaulty && !second.isFaulty then
    if second.cost < first.cost then .onlySecond else .second
  else if first.cost < second.cost then
    if greatestDifference < (second.cost - first.cost) * (1 + first.weight)
    then .onlyFirst else .first
  else if second.cost < first.cost then
    if greatestDifference < (first.cost - second.cost) * (1 + second.weight)
    then .onlySecond else .second
  else .neither

end Merit

namespace Parsing

/-- The merit of a head. -/
def meritOf (index : Nat) : Parsing Merit := do
  let stack ← get
  let isPaused := (stack.head index).isPaused
  let cost := stack.costOf index
  let weight ← Stack.weightSince index
  return {
    cost := if isPaused then cost + Cost.tree else cost
    weight
    isFaulty := isPaused || (stack.top index).state = 0 }

/-- Whether one of some heads makes a head with a merit superfluous. -/
def isBeaten (index : Nat) (merit : Merit) : List Nat → Parsing Bool
  | [] => return false
  | other :: rest => do
    let stack ← get
    let isBehind := (stack.top other).place.bytes <
      (stack.top index).place.bytes
    if other = index || !(stack.head other).isActive || isBehind then
      isBeaten index merit rest
    else
      match merit.compare (← meritOf other) with
      | .onlySecond => return true
      | .second =>
        if (← get).canMerge other index then return true
        else isBeaten index merit rest
      | _ => isBeaten index merit rest

/-- Whether there is something better than a head that would have a cost. -/
def isSuperfluous (index cost : Nat) : Parsing Bool := do
  let stack ← get
  let isFinished := match stack.finished with
    | some tree => decide (tree.cost ≤ cost)
    | none => false
  if isFinished then return true
  else
    let weight ← Stack.weightSince index
    isBeaten index { cost, weight, isFaulty := false }
      (List.range stack.heads.size)

end Parsing

end CrateShelf.Source
