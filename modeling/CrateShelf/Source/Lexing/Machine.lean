import CrateShelf.Source.Vocabulary

/-!
# The machine that tells tokens

All patterns together make one machine.  Its nodes read a character, go on
in two ways, or say that a token is complete.  Blanks before a token are not
part of the machine: whoever runs it skips them while no token has begun.
-/

namespace CrateShelf.Source

/-- A node of the machine. -/
inductive Node where
  /-- Reads a character of a set and goes on. -/
  | read (set : Charset) (next : Nat)
  /-- Goes on in two ways. -/
  | split (first second : Nat)
  /-- The token is complete. -/
  | complete
deriving Inhabited

/-- A node with the token that it belongs to and the rank of the token. -/
structure TokenNode where
  node : Node
  token : Nat
  rank : Int
deriving Inhabited

/-- The machine for several tokens. -/
structure Machine where
  nodes : Array TokenNode
  /-- Where each token starts. -/
  starts : Array Nat
  /-- Which tokens follow without a blank. -/
  attached : Array Bool
  /-- How much each token is preferred. -/
  preferences : Array Nat
deriving Inhabited

namespace Machine

/-- The node with a number. -/
def node (machine : Machine) (number : Nat) : TokenNode :=
  machine.nodes.getD number default

/-! ## Construction -/

/-- Adds a node for a token. -/
def addNode (token : Nat) (rank : Int) (node : Node) :
    StateM (Array TokenNode) Nat := do
  let nodes ← get
  set (nodes.push { node, token, rank })
  return nodes.size

/-- Adds nodes that read a text and then go on. -/
def addText (token : Nat) (rank : Int) (next : Nat) :
    List Char → StateM (Array TokenNode) Nat
  | [] => return next
  | char :: rest => do
    let after ← addText token rank next rest
    addNode token rank (.read (.single char) after)

/-- Adds nodes that read what a pattern stands for and then go on. -/
def addPattern (token : Nat) (rank : Int) (next : Nat) :
    Pattern → StateM (Array TokenNode) Nat
  | .empty => return next
  | .text chars => addText token rank next chars
  | .chars set => addNode token rank (.read set next)
  | .both first second => do
    let after ← addPattern token rank next second
    addPattern token rank after first
  | .either first second => do
    let left ← addPattern token rank next first
    let right ← addPattern token rank next second
    if left = right then return left
    else addNode token rank (.split left right)
  | .repeated pattern => do
    let again ← addNode token rank (.split next next)
    let start ← addPattern token rank again pattern
    modify fun nodes => nodes.modify again fun node =>
      { node with node := .split start next }
    return start

/-- The machine for the tokens of a vocabulary. -/
def ofTokens (tokens : Array TokenInfo) : Machine :=
  let building : StateM (Array TokenNode) (Array Nat) :=
    tokens.zipIdx.mapM fun (info, token) => do
      let rank := info.lexeme.rank
      let last ← addNode token rank .complete
      addPattern token rank last info.lexeme.pattern
  let (starts, nodes) := building.run #[]
  { nodes, starts
    attached := tokens.map (·.lexeme.isAttached)
    preferences := tokens.map (·.lexeme.preference) }

/-! ## Running the machine -/

/-- Goes on from nodes without reading, to the nodes that read or complete;
`fuel` bounds the steps. -/
def reach (machine : Machine) :
    (fuel : Nat) → (pending seen found : List Nat) → List Nat
  | 0, _, _, found => found
  | _, [], _, found => found
  | fuel + 1, number :: pending, seen, found =>
    if seen.contains number then reach machine fuel pending seen found
    else
      match (machine.node number).node with
      | .split first second =>
        reach machine fuel (first :: second :: pending) (number :: seen) found
      | _ => reach machine fuel pending (number :: seen) (number :: found)

/-- The nodes that read or complete, from nodes on. -/
def reached (machine : Machine) (numbers : List Nat) : List Nat :=
  machine.reach (4 * machine.nodes.size) numbers [] []

/-- The nodes where several tokens start. -/
def startsOf (machine : Machine) (tokens : List Nat) : List Nat :=
  machine.reached (tokens.map fun token => machine.starts.getD token 0)

/-- Whether a token is preferred to another for the same text. -/
def prefers (machine : Machine) (first second : Nat × Int) : Bool :=
  if first.2 != second.2 then second.2 < first.2
  else
    let own := machine.preferences.getD first.1 0
    let other := machine.preferences.getD second.1 0
    if own != other then other < own else first.1 < second.1

/-- The best of the tokens that are complete at nodes, with its rank. -/
def completed (machine : Machine) (numbers : List Nat) :
    Option (Nat × Int) :=
  numbers.foldl
    (fun best? number =>
      let found := machine.node number
      match found.node with
      | .complete =>
        match best? with
        | some best =>
          if machine.prefers best (found.token, found.rank) then some best
          else some (found.token, found.rank)
        | none => some (found.token, found.rank)
      | _ => best?) none

/-- The nodes that a character leads to from nodes. -/
def after (machine : Machine) (numbers : List Nat) (code : Nat) :
    List Nat :=
  numbers.filterMap fun number =>
    match (machine.node number).node with
    | .read set next => if set.contains code then some next else none
    | _ => none

/-- The nodes that a text leads to from nodes. -/
def afterText (machine : Machine) : List Nat → List Char → List Nat
  | numbers, [] => numbers
  | numbers, char :: rest =>
    machine.afterText
      (machine.reached (machine.after numbers char.toNat)) rest

/-- Whether a token can be a whole text. -/
def isToken (machine : Machine) (token : Nat) (text : List Char) : Bool :=
  (machine.completed
    (machine.afterText (machine.startsOf [token]) text)).isSome

end Machine

end CrateShelf.Source
