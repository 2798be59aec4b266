import CrateShelf.Source.ParseTree

/-!
# The visible tree of a source text

Of all trees only those are shown that have a name: phrases and tokens of the
grammar, under the names that they have where they stand.  The parts of a
hidden phrase are shown as parts of the phrase around it.
-/

namespace CrateShelf.Source

/-- What is known of a branch without looking into it. -/
structure BranchInfo where
  /-- The name of the phrase or token. -/
  kind : String
  /-- Whether it is a phrase or named token and no mere word or sign. -/
  isNamed : Bool
  isMissing : Bool
  /-- Whether there is a fault in it. -/
  isFaulty : Bool
  /-- The fields of the phrase around it that it is. -/
  fields : List String
  start : Extent
  stop : Extent
deriving Inhabited

/-- A tree as it is shown. -/
inductive Branch where
  | node (info : BranchInfo) (children : List Branch)
deriving Inhabited

namespace Branch

/-- What is known of a branch. -/
def info : Branch → BranchInfo
  | node info _ => info

/-- The branches that a branch is made of. -/
def children : Branch → List Branch
  | node _ children => children

/-- The name of the phrase or token. -/
def kind (branch : Branch) : String := branch.info.kind

/-- Whether a branch is no mere word or sign. -/
def isNamed (branch : Branch) : Bool := branch.info.isNamed

/-- The name of a stretch of text that is at fault. -/
def faultKind : String := "ERROR"

/-- Whether a branch is a stretch of text at fault. -/
def isFault (branch : Branch) : Bool := branch.kind = faultKind

/-- The children that are no mere words or signs. -/
def namedChildren (branch : Branch) : List Branch :=
  branch.children.filter isNamed

/-- The first child of a kind. -/
def child? (branch : Branch) (kind : String) : Option Branch :=
  branch.children.find? (·.kind = kind)

/-- Whether there is a child of a kind. -/
def has (branch : Branch) (kind : String) : Bool :=
  (branch.child? kind).isSome

/-- The child that is a field. -/
def field? (branch : Branch) (name : String) : Option Branch :=
  branch.children.find? (·.info.fields.contains name)

/-- The branch as one more field of what is around it. -/
def addField (name : String) : Branch → Branch
  | node info children =>
    node { info with fields := name :: info.fields } children

end Branch

namespace ParseTree

/-- Adds a field to the first of several branches. -/
def markFirst (field? : Option String) (branches : List Branch) :
    List Branch :=
  match field?, branches with
  | some field, first :: rest => first.addField field :: rest
  | _, _ => branches

/-- The name of a tree that stands under a label, and whether it is no mere
word or sign. -/
def nameOf (vocabulary : Vocabulary) (symbol : Symbol) :
    Option Label → String × Bool
  | some label => (label.name, label.isPhrase)
  | none =>
    match symbol with
    | .known number =>
      (vocabulary.shownName number, vocabulary.isNamed number)
    | .fault | .passed => (Branch.faultKind, true)

mutual

/-- The branches of a tree that begins at a place and stands under a label:
one if the tree is shown, and otherwise those of its parts. -/
def branches (vocabulary : Vocabulary) (label : Option Label)
    (place : Extent) : ParseTree → List Branch
  | node info parts =>
    let inner := branchesOfAll vocabulary info.shape 0 place parts
    if label.isSome || info.isVisible then
      let (kind, isNamed) := nameOf vocabulary info.symbol label
      let start := place + info.lead
      let cost := (node info parts).cost
      [.node {
        kind, isNamed
        isMissing := info.isMissing
        isFaulty := 0 < cost
        fields := []
        start, stop := start + info.size } inner]
    else inner

/-- The branches of several trees that stand after one another, given how
many parts came before them, extras apart. -/
def branchesOfAll (vocabulary : Vocabulary) (shape : Shape) (index : Nat)
    (place : Extent) : List ParseTree → List Branch
  | [] => []
  | tree :: rest =>
    let (label, field?) :=
      if tree.isExtra then (none, none)
      else shape.getD index (none, none)
    let here := markFirst field? (branches vocabulary label place tree)
    here ++ branchesOfAll vocabulary shape
      (if tree.isExtra then index else index + 1) (place + tree.extent) rest

end

/-- The visible tree of a whole text. -/
def branch? (vocabulary : Vocabulary) (tree : ParseTree) : Option Branch :=
  (tree.branches vocabulary none {}).head?

end ParseTree

end CrateShelf.Source
