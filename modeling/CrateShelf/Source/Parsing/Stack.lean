import CrateShelf.Source.ParseTree

/-!
# The stack of a parse

While a text is read there may be several ways to understand it.  They share
what they have in common: the stack is a graph of knots, in which a knot can
lie above several others, and each way of reading is a head that points to the
knot on top.  Two heads that have come to the same state at the same place
are merged.
-/

namespace CrateShelf.Source

/-- What a knot rests on: another knot, and the tree between the two.  There
is no tree where a fault begins. -/
structure Link where
  below : Nat
  tree? : Option ParseTree
deriving Inhabited

/-- A place that reading has come to. -/
structure Knot where
  state : Nat
  links : List Link := []
  place : Extent := {}
  /-- The cost of the faults up to here. -/
  cost : Nat := 0
  /-- How much has been understood up to here. -/
  weight : Nat := 0
deriving Inhabited

/-- Whether a head goes on. -/
inductive Standing where
  | active
  /-- It waits at a token that it cannot go on with. -/
  | paused (token : ParseTree)
  | halted
deriving Inhabited

/-- A state below a head to which it can go back. -/
structure Refuge where
  place : Extent
  depth : Nat
  state : Nat
deriving Inhabited

/-- One way of reading. -/
structure Head where
  knot : Nat
  /-- The weight when the last fault began. -/
  weightAtFault : Nat := 0
  /-- The number of hash signs that is kept. -/
  hashes : Option Nat := none
  standing : Standing := .active
  refuges : Option (List Refuge) := none
deriving Inhabited

namespace Head

/-- Whether a head goes on. -/
def isActive (head : Head) : Bool :=
  match head.standing with
  | .active => true
  | _ => false

/-- Whether a head has been given up. -/
def isHalted (head : Head) : Bool :=
  match head.standing with
  | .halted => true
  | _ => false

/-- Whether a head waits. -/
def isPaused (head : Head) : Bool :=
  match head.standing with
  | .paused _ => true
  | _ => false

end Head

/-- The knots and heads, and the best tree of the whole text so far. -/
structure Stack where
  knots : Array Knot
  heads : Array Head
  finished : Option ParseTree := none
  /-- How many trees of the whole text were found. -/
  count : Nat := 0
deriving Inhabited

/-- Steps that change the stack. -/
abbrev Parsing := StateM Stack

namespace Stack

/-- The knot with a number. -/
def knot (stack : Stack) (number : Nat) : Knot :=
  stack.knots.getD number default

/-- The head with an index. -/
def head (stack : Stack) (index : Nat) : Head :=
  stack.heads.getD index default

/-- The knot on top of a head. -/
def top (stack : Stack) (index : Nat) : Knot :=
  stack.knot (stack.head index).knot

/-- Before anything is read. -/
def begin : Stack := { knots := #[{ state := 1 }], heads := #[{ knot := 0 }] }

/-- Changes a head. -/
def changeHead (stack : Stack) (index : Nat) (change : Head → Head) :
    Stack :=
  { stack with heads := stack.heads.modify index change }

/-- Gives up a head. -/
def halt (stack : Stack) (index : Nat) : Stack :=
  stack.changeHead index fun head => { head with standing := .halted }

/-- Takes a head away. -/
def remove (stack : Stack) (index : Nat) : Stack :=
  { stack with heads := stack.heads.eraseIdxIfInBounds index }

/-- Puts a head in the place of another one. -/
def move (stack : Stack) (source target : Nat) : Stack :=
  if source = target then stack
  else
    let moved := stack.head source
    let refuges := moved.refuges <|> (stack.head target).refuges
    { stack with
      heads := (stack.heads.set! target
        { moved with refuges }).eraseIdxIfInBounds source }

/-- Puts a tree on a head and goes to a state.  Without a tree a fault
begins. -/
def push (stack : Stack) (index : Nat) (tree? : Option ParseTree)
    (state : Nat) : Stack :=
  let head := stack.head index
  let below := stack.knot head.knot
  let number := stack.knots.size
  let knot : Knot := match tree? with
    | some tree => {
        state, links := [⟨head.knot, tree?⟩]
        place := below.place + tree.extent
        cost := below.cost + tree.cost
        weight := below.weight + tree.weight }
    | none => { below with state, links := [⟨head.knot, none⟩] }
  let head := { head with
    knot := number
    weightAtFault :=
      if tree?.isNone then knot.weight else head.weightAtFault }
  { stack with
    knots := stack.knots.push knot
    heads := stack.heads.set! index head }

/-! ## Merging -/

/-- The greatest number of links of a knot. -/
def mostLinks : Nat := 8

/-- Whether two trees are so alike that either will do. -/
def isAlike : Option ParseTree → Option ParseTree → Bool
  | none, none => true
  | some left, some right =>
    left.symbol = right.symbol &&
      ((0 < left.cost && 0 < right.cost) ||
        (left.info.lead.bytes = right.info.lead.bytes &&
          left.info.size.bytes = right.info.size.bytes &&
          left.parts.length = right.parts.length &&
          left.isExtra = right.isExtra &&
          left.info.hashes = right.info.hashes))
  | _, _ => false

/-- Whether two knots are at the same place in the same state. -/
def isSame (left right : Knot) : Bool :=
  left.state = right.state && left.place.bytes = right.place.bytes &&
    left.cost = right.cost

/-- Lets a knot rest on one more knot.  If it already rests on one like it
with a tree like it, the two knots are merged instead; the number bounds how
far down this goes on. -/
def addLink (number : Nat) (link : Link) :
    (depth : Nat) → Stack → Stack
  | 0, stack => stack
  | depth + 1, stack =>
    if link.below = number then stack
    else
      let knot := stack.knot number
      let known? := knot.links.find? fun known =>
        isAlike known.tree? link.tree? &&
          (known.below = link.below ||
            isSame (stack.knot known.below) (stack.knot link.below))
      match known? with
      | some known =>
        if known.below = link.below then stack
        else (stack.knot link.below).links.foldl
          (fun stack inner => addLink known.below inner depth stack) stack
      | none =>
        if mostLinks ≤ knot.links.length then stack
        else
          let weight := (stack.knot link.below).weight +
            (link.tree?.map ParseTree.weight).getD 0
          { stack with
            knots := stack.knots.set! number { knot with
              links := knot.links ++ [link]
              weight := max weight knot.weight } }

/-- Whether two heads can be merged. -/
def canMerge (stack : Stack) (index other : Nat) : Bool :=
  let head := stack.head index
  let second := stack.head other
  head.isActive && second.isActive && head.hashes = second.hashes &&
    isSame (stack.knot head.knot) (stack.knot second.knot)

/-- Merges a head into another one, if that can be. -/
def merge? (stack : Stack) (index other : Nat) : Option Stack :=
  if stack.canMerge index other then
    let number := (stack.head index).knot
    let links := (stack.top other).links
    let depth := stack.knots.size
    let stack := links.foldl
      (fun stack link => addLink number link depth stack) stack
    let knot := stack.knot number
    let stack :=
      if knot.state = 0 then
        stack.changeHead index fun head =>
          { head with weightAtFault := knot.weight }
      else stack
    some (stack.remove other)
  else none

/-- Merges a head into the first of several others into which it can be
merged. -/
def mergeFirst? (stack : Stack) (other : Nat) : List Nat → Option Stack
  | [] => none
  | index :: rest =>
    match stack.merge? index other with
    | some merged => some merged
    | none => mergeFirst? stack other rest

/-! ## Walking down -/

/-- A way down from a head. -/
structure Walker where
  knot : Nat
  /-- The trees on the way, the lowest first. -/
  trees : List ParseTree := []
  /-- How many trees there are, extras apart. -/
  depth : Nat := 0

/-- What becomes of a way down. -/
structure Verdict where
  /-- Whether the way is one that is sought. -/
  isSought : Bool
  /-- Whether the way ends here. -/
  isEnded : Bool

/-- The ways down that are gone together, and what they have found. -/
structure Walk (Memory : Type) where
  memory : Memory
  kept : Array Walker := #[]
  added : Array Walker := #[]
  found : Array Walker := #[]

/-- The greatest number of ways that are gone together. -/
def mostWalkers : Nat := 64

/-- The way with one more link. -/
def Walker.follow (walker : Walker) (link : Link) : Walker :=
  match link.tree? with
  | some tree => {
      knot := link.below, trees := tree :: walker.trees
      depth := if tree.isExtra then walker.depth else walker.depth + 1 }
  | none => { walker with knot := link.below, depth := walker.depth + 1 }

variable {Memory : Type}

/-- Goes one link down on every way. -/
def walkRound (stack : Stack) (judge : Memory → Walker → Memory × Verdict) :
    List Walker → Walk Memory → Walk Memory
  | [], walk => walk
  | walker :: rest, walk =>
    let (memory, verdict) := judge walk.memory walker
    let found :=
      if verdict.isSought then walk.found.push walker else walk.found
    let walk := { walk with memory, found }
    match (stack.knot walker.knot).links with
    | [] => walkRound stack judge rest walk
    | first :: others =>
      if verdict.isEnded then walkRound stack judge rest walk
      else
        let present := walk.kept.size + walk.added.size + rest.length + 1
        let others := others.take (mostWalkers - present)
        walkRound stack judge rest { walk with
          kept := walk.kept.push (walker.follow first)
          added := walk.added ++ (others.map walker.follow).toArray }

/-- Goes down on all ways until they end; the number bounds how far. -/
def walkAll (stack : Stack) (judge : Memory → Walker → Memory × Verdict) :
    (depth : Nat) → List Walker → Walk Memory → Walk Memory
  | 0, _, walk => walk
  | _, [], walk => walk
  | depth + 1, walkers, walk =>
    let walk := walkRound stack judge walkers walk
    walkAll stack judge depth (walk.kept ++ walk.added).toList
      { walk with kept := #[], added := #[] }

/-- Goes down from a head. -/
def walk (stack : Stack) (index : Nat) (memory : Memory)
    (judge : Memory → Walker → Memory × Verdict) : Walk Memory :=
  stack.walkAll judge (stack.knots.size + 1)
    [{ knot := (stack.head index).knot }] { memory }

/-! ## Taking trees off -/

/-- Trees taken off a head: the head that is left, and the trees on each of
the ways to it. -/
structure Taken where
  head : Nat
  ways : List (List ParseTree)

/-- Ways grouped by the knots they lead to, in the order in which they were
found. -/
def groupWays (ways : List Walker) :
    List (Nat × List (List ParseTree)) :=
  ways.foldl
    (fun groups way =>
      if groups.any (·.1 = way.knot) then
        groups.map fun (knot, known) =>
          if knot = way.knot then (knot, known ++ [way.trees])
          else (knot, known)
      else groups ++ [(way.knot, [way.trees])]) []

/-- Makes a head for each knot that ways lead to. -/
def take (stack : Stack) (index : Nat) (ways : List Walker) :
    Stack × List Taken :=
  let source := stack.head index
  let groups := groupWays ways
  let heads := groups.map fun (knot, _) =>
    ({ knot, weightAtFault := source.weightAtFault
       hashes := source.hashes } : Head)
  let base := stack.heads.size
  ({ stack with heads := stack.heads ++ heads.toArray },
    groups.zipIdx.map fun ((_, ways), place) => ⟨base + place, ways⟩)

/-- Takes a number of trees off a head, with the extras among them. -/
def takeTrees (stack : Stack) (index count : Nat) : Stack × List Taken :=
  let walk := stack.walk index () fun _ walker =>
    let isSought := walker.depth = count
    ((), ⟨isSought, isSought⟩)
  stack.take index walk.found.toList

/-- Takes all trees off a head. -/
def takeAll (stack : Stack) (index : Nat) : Stack × List Taken :=
  let walk := stack.walk index () fun _ walker =>
    ((), ⟨(stack.knot walker.knot).links.isEmpty, false⟩)
  stack.take index walk.found.toList

/-- Takes a fault off the top of a head, if there is one, and yields what it
is made of. -/
def takeFault (stack : Stack) (index : Nat) :
    Stack × Option (List ParseTree) :=
  let isFault (tree? : Option ParseTree) : Bool :=
    (tree?.map ParseTree.isFault).getD false
  if (stack.top index).links.any fun link => isFault link.tree? then
    let walk := stack.walk index false fun isFound walker =>
      match walker.trees with
      | [] => (isFound, ⟨false, false⟩)
      | tree :: _ =>
        let isSought := !isFound && tree.isFault
        (isFound || isSought, ⟨isSought, true⟩)
    let (stack, taken) := stack.take index walk.found.toList
    match taken with
    | [] => (stack, none)
    | first :: _ =>
      let trees := first.ways.headD []
      (stack.move first.head index, some (trees.flatMap ParseTree.parts))
  else (stack, none)

/-- How far down refuges are sought. -/
def deepestRefuge : Nat := 16

/-- Whether a state has already been found at a depth. -/
def isRefuge (state depth : Nat) : List Refuge → Bool
  | [] => false
  | refuge :: rest =>
    if refuge.depth < depth then false
    else if refuge.depth = depth && refuge.state = state then true
    else isRefuge state depth rest

/-- Notes the states below a head to which it can go back. -/
def noteRefuges (stack : Stack) (index : Nat) : Stack :=
  let walk := stack.walk index ([] : List Refuge) fun refuges walker =>
    let knot := stack.knot walker.knot
    if deepestRefuge < walker.depth then (refuges, ⟨false, true⟩)
    else if isRefuge knot.state walker.depth refuges then
      (refuges, ⟨false, false⟩)
    else
      (⟨knot.place, walker.depth, knot.state⟩ :: refuges, ⟨false, false⟩)
  stack.changeHead index fun head =>
    { head with refuges := some walk.memory.reverse }

/-! ## Standing of heads -/

/-- Whether a knot is one where a fault has just begun. -/
def isFresh (knot : Knot) : Bool :=
  knot.state = 0 &&
    match knot.links with
    | link :: _ => link.tree?.isNone
    | [] => true

/-- The cost of the faults of a head. -/
def costOf (stack : Stack) (index : Nat) : Nat :=
  let head := stack.head index
  let knot := stack.knot head.knot
  if head.isPaused || isFresh knot then knot.cost + Cost.fault
  else knot.cost

/-- How much has been understood since the last fault began. -/
def weightSince (index : Nat) : Parsing Nat := do
  let stack ← get
  let weight := (stack.top index).weight
  let known := (stack.head index).weightAtFault
  if weight < known then
    modify fun stack => stack.changeHead index fun head =>
      { head with weightAtFault := weight }
    return 0
  else return weight - known

/-- Whether something has been read since the last fault began; the number
bounds how far down is looked. -/
def hasAdvancedFrom (stack : Stack) (weightAtFault : Nat) :
    (depth : Nat) → Knot → Bool
  | 0, _ => false
  | depth + 1, knot =>
    match knot.links with
    | ⟨below, some tree⟩ :: _ =>
      if 0 < tree.extent.bytes then true
      else if weightAtFault < knot.weight && tree.cost = 0 then
        stack.hasAdvancedFrom weightAtFault depth (stack.knot below)
      else false
    | _ => false

/-- Whether a head has read something since the last fault began. -/
def hasAdvanced (stack : Stack) (index : Nat) : Bool :=
  let knot := stack.top index
  knot.cost = 0 ||
    stack.hasAdvancedFrom (stack.head index).weightAtFault
      stack.knots.size knot

end Stack

end CrateShelf.Source
