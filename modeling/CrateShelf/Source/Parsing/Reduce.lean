import CrateShelf.Source.Parsing.Stack
import CrateShelf.Source.Parsing.Token

/-!
# Making phrases

The trees on top of a head become one phrase.  Where several ways lead down
from the head, there is one phrase for each knot that they lead to: the best
one.
-/

namespace CrateShelf.Source

namespace Parsing

/-- The number of heads up to which reading goes on with all of them. -/
def mostHeads : Nat := 6

/-- How many heads more there may be for a while. -/
def spareHeads : Nat := 4

/-- Puts trees on a head, all of them in one state. -/
def pushAll (index state : Nat) (trees : List ParseTree) : Parsing Unit :=
  modify fun stack => trees.foldl
    (fun stack tree => stack.push index (some tree) state) stack

variable (table : Table)

/-- The best phrase of a kind that can be made on one of several ways, and
the extras after it. -/
def bestPhrase (symbol : Nat) (shape : Shape) (ways : List (List ParseTree)) :
    ParseTree × List ParseTree :=
  let make (trees : List ParseTree) : ParseTree × List ParseTree :=
    let (parts, extras) := ParseTree.splitExtras trees
    (table.tree (.known symbol) shape parts, extras)
  match ways with
  | [] => make []
  | first :: others =>
    others.foldl
      (fun best way =>
        let other := make way
        if ParseTree.prefersSecond table.precedence best.1 other.1 then other
        else best)
      (make first)

/-- Puts the phrases for trees that were taken off a head on the heads that
are left.  The number says how many of these heads were taken away
meanwhile. -/
def putPhrases (index symbol : Nat) (shape : Shape) (endsExtra : Bool)
    (limit : Nat) : (removed : Nat) → List Stack.Taken → Parsing Unit
  | _, [] => return
  | removed, taken :: rest => do
    let own := taken.head - removed
    if limit < own then
      modify fun stack => stack.remove own
      putPhrases index symbol shape endsExtra limit (removed + 1) rest
    else
      let (phrase, extras) := bestPhrase table symbol shape taken.ways
      let state := ((← get).top own).state
      let target := table.next state symbol
      let phrase :=
        if endsExtra && target = state then
          phrase.withInfo fun info => { info with isExtra := true }
        else phrase
      pushAll own target (phrase :: extras)
      let others := (List.range own).filter (· != index)
      match (← get).mergeFirst? own others with
      | some merged =>
        set merged
        putPhrases index symbol shape endsExtra limit (removed + 1) rest
      | none => putPhrases index symbol shape endsExtra limit removed rest

/-- Makes a phrase of trees on top of a head.  Yields the first of the heads
that are new. -/
def reduce (index symbol count shape : Nat) (endsExtra : Bool) :
    Parsing (Option Nat) := do
  let stack ← get
  let size := stack.heads.size
  let halted := stack.heads.countP Head.isHalted
  let taken ← modifyGet fun stack =>
    let (stack, taken) := stack.takeTrees index count
    (taken, stack)
  putPhrases table index symbol (table.shapes.getD shape #[]) endsExtra
    (mostHeads + spareHeads + halted) 0 taken
  return if size < (← get).heads.size then some size else none

/-- The tree of a whole text: the last tree that is no extra takes in all
others. -/
def wholeTree? (trees : List ParseTree) : Option ParseTree :=
  let (parts, extras) := ParseTree.splitExtras trees
  parts.getLast?.map fun last =>
    table.tree last.symbol last.info.shape
      (parts.dropLast ++ last.parts ++ extras)

/-- The better of two trees of a whole text. -/
def betterTree (known : Option ParseTree) (found : ParseTree) : ParseTree :=
  match known with
  | some tree =>
    if ParseTree.prefersSecond table.precedence tree found then found
    else tree
  | none => found

/-- Takes note of the trees of the whole text that a head has come to at the
end of the text. -/
def accept (index : Nat) (ending : ParseTree) : Parsing Unit :=
  modify fun stack =>
    let (stack, taken) := (stack.push index (some ending) 1).takeAll index
    let trees := (taken.flatMap (·.ways)).filterMap (wholeTree? table)
    let stack := { stack with
      finished := trees.foldl
        (fun known found => some (betterTree table known found))
        stack.finished
      count := stack.count + trees.length }
    let stack := match taken with
      | first :: _ => stack.remove first.head
      | [] => stack
    stack.halt index

end Parsing

end CrateShelf.Source
