import CrateShelf.Source.Automaton.Item
import CrateShelf.Source.Extent

/-!
# Trees of a source text

A tree is a token, or a phrase with the trees that it is made of.  Where a
text is at fault, tokens are thought to be missing, or tokens are passed over
and gathered in a tree of their own.  Each such tree has a cost; of several
ways to read a text the cheapest one is taken.
-/

namespace CrateShelf.Source

/-- What a tree stands for. -/
inductive Symbol where
  /-- A token or phrase of the vocabulary. -/
  | known (number : Nat)
  /-- A stretch of text that is at fault. -/
  | fault
  /-- Tokens that have been passed over one by one. -/
  | passed
deriving DecidableEq, Repr, Inhabited

namespace Symbol

/-- Whether a symbol stands for text that is at fault. -/
def isFaulty : Symbol → Bool
  | known _ => false
  | fault | passed => true

end Symbol

/-! ## Costs -/

namespace Cost

/-- The cost of a stretch of text that is at fault. -/
def fault : Nat := 500

/-- The cost of a token that is missing, beside that of a fault. -/
def missing : Nat := 110

/-- The cost of a tree that is passed over. -/
def tree : Nat := 100

/-- The cost of a line that is passed over. -/
def row : Nat := 30

/-- The cost of a stretch of text that is passed over. -/
def ofExtent (extent : Extent) : Nat := extent.bytes + row * extent.rows

end Cost

/-! ## Trees -/

/-- What is known of a tree without looking into it. -/
structure TreeInfo where
  symbol : Symbol
  /-- The labels and fields of its parts. -/
  shape : Shape := #[]
  /-- The blanks before it. -/
  lead : Extent := {}
  size : Extent := {}
  /-- Whether it is a node of its own. -/
  isVisible : Bool := false
  /-- Whether it may stand anywhere, as comments do. -/
  isExtra : Bool := false
  /-- Whether it is a token that is thought to be missing. -/
  isMissing : Bool := false
  /-- Whether it is a word that is a token of its own. -/
  isKeyword : Bool := false
  /-- The number of hash signs that is kept after the last token in it that
  needed special scanning. -/
  hashes : Option Nat := none
  /-- The cost of all faults in it, if it is not missing itself. -/
  ownCost : Nat := 0
  /-- The number of nodes in it. -/
  nodes : Nat := 0
  /-- The number of nodes that are its children. -/
  children : Nat := 0
deriving Inhabited

/-- A tree of a source text. -/
inductive ParseTree where
  | node (info : TreeInfo) (parts : List ParseTree)
deriving Inhabited

namespace ParseTree

/-- What is known of a tree. -/
def info : ParseTree → TreeInfo
  | node info _ => info

/-- The trees that a tree is made of. -/
def parts : ParseTree → List ParseTree
  | node _ parts => parts

/-- The tree with something else known of it. -/
def withInfo (change : TreeInfo → TreeInfo) : ParseTree → ParseTree
  | node info parts => node (change info) parts

/-- What a tree stands for. -/
def symbol (tree : ParseTree) : Symbol := tree.info.symbol

/-- Whether a tree may stand anywhere. -/
def isExtra (tree : ParseTree) : Bool := tree.info.isExtra

/-- Whether a tree is a stretch of text at fault. -/
def isFault (tree : ParseTree) : Bool := tree.symbol = .fault

/-- The cost of all faults in a tree. -/
def cost (tree : ParseTree) : Nat :=
  if tree.info.isMissing then Cost.missing + Cost.fault
  else tree.info.ownCost

/-- The extent of a tree with the blanks before it. -/
def extent (tree : ParseTree) : Extent := tree.info.lead + tree.info.size

/-- How much has been understood with a tree: the nodes in it and itself. -/
def weight (tree : ParseTree) : Nat :=
  tree.info.nodes + (if tree.info.isVisible then 1 else 0) +
    if tree.symbol = .passed then 1 else 0

/-- The cost of passing over a tree. -/
def passingCost (tree : ParseTree) : Nat :=
  if tree.isExtra || (tree.isFault && tree.parts.isEmpty) then 0
  else if tree.info.isVisible then Cost.tree
  else if tree.parts.isEmpty then 0
  else Cost.tree * tree.info.children

/-- What is known of a phrase with one more part at its end.  The number says
how many parts came before it, comments apart. -/
def addPart (ending : Nat) (info : TreeInfo) (place : Nat)
    (part : ParseTree) : TreeInfo :=
  let cost := if part.symbol = .passed then 0 else part.cost
  let passing := if info.symbol.isFaulty then part.passingCost else 0
  let isLabelled := !part.isExtra && part.symbol ≠ .known ending &&
    ((info.shape.getD place (none, none)).1).isSome
  let nodes := info.nodes + part.info.nodes
  let isNode := isLabelled || part.info.isVisible
  { info with
    ownCost := info.ownCost + cost + passing
    nodes := if isNode then nodes + 1 else nodes
    children :=
      if isNode then info.children + 1
      else if part.parts.isEmpty then info.children
      else info.children + part.info.children
    hashes := part.info.hashes <|> info.hashes }

/-- What is known of a phrase with more parts at its end. -/
def addParts (ending : Nat) :
    TreeInfo → (place : Nat) → List ParseTree → TreeInfo
  | info, _, [] => info
  | info, place, part :: rest =>
    addParts ending (addPart ending info place part)
      (if part.isExtra then place else place + 1) rest

/-- The extent of trees after one another. -/
def extentOf (trees : List ParseTree) : Extent :=
  trees.foldl (fun extent tree => extent + tree.extent) {}

/-- A phrase that is made of parts.  The number is that of the token at the
end of the text. -/
def ofParts (ending : Nat) (symbol : Symbol) (isVisible : Bool)
    (shape : Shape) (parts : List ParseTree) : ParseTree :=
  let (lead, size) := match parts with
    | [] => (({} : Extent), ({} : Extent))
    | first :: rest => (first.info.lead, first.info.size + extentOf rest)
  let start : TreeInfo := { symbol, isVisible, shape, lead, size }
  let info := addParts ending start 0 parts
  let own := if symbol.isFaulty then Cost.fault + Cost.ofExtent size else 0
  node { info with ownCost := info.ownCost + own } parts

/-! ## Extras at the end -/

/-- The trees up to the last one that is no extra, and the extras after
it. -/
def splitExtras : List ParseTree → List ParseTree × List ParseTree
  | [] => ([], [])
  | tree :: rest =>
    match splitExtras rest with
    | ([], extras) =>
      if tree.isExtra then ([], tree :: extras) else ([tree], extras)
    | (front, extras) => (tree :: front, extras)

/-- Splitting off extras loses nothing. -/
theorem splitExtras_append (trees : List ParseTree) :
    (splitExtras trees).1 ++ (splitExtras trees).2 = trees := by
  induction trees with
  | nil => rfl
  | cons tree rest ih =>
    unfold splitExtras
    split
    · next extras shape =>
      rw [shape] at ih
      split <;> simp_all
    · next front extras _ shape =>
      rw [shape] at ih
      simp_all

/-- What is split off are extras. -/
theorem isExtra_of_mem_splitExtras (trees : List ParseTree) :
    ∀ tree ∈ (splitExtras trees).2, tree.isExtra = true := by
  induction trees with
  | nil => simp [splitExtras]
  | cons tree rest ih =>
    unfold splitExtras
    split
    · next extras shape =>
      rw [shape] at ih
      split <;> simp_all
    · next front extras _ shape =>
      rw [shape] at ih
      simp_all

/-! ## Which of two trees is meant -/

/-- The place of a symbol in an order of symbols; faults come last. -/
def placeOf (order : Array Nat) : Symbol → Nat
  | .known number => order.getD number 0
  | .passed => order.size
  | .fault => order.size + 1

mutual

/-- Which of two trees comes first: by what they stand for, by the number of
their parts, and then by the first parts that differ. -/
def order (places : Array Nat) : ParseTree → ParseTree → Ordering
  | node left leftParts, node right rightParts =>
    (compare (placeOf places left.symbol) (placeOf places right.symbol)).then
      ((compare leftParts.length rightParts.length).then
        (orderAll places leftParts rightParts))

/-- Which of two lists of trees comes first: by the first trees that
differ. -/
def orderAll (places : Array Nat) :
    List ParseTree → List ParseTree → Ordering
  | left :: lefts, right :: rights =>
    (order places left right).then (orderAll places lefts rights)
  | _, _ => .eq

end

/-- Whether the second of two trees is meant: it is cheaper, or both cost the
same and it comes first in the order. -/
def prefersSecond (places : Array Nat) (first second : ParseTree) : Bool :=
  if second.cost < first.cost then true
  else if first.cost < second.cost then false
  else if 0 < first.cost then true
  else order places first second == .gt

end ParseTree

end CrateShelf.Source
