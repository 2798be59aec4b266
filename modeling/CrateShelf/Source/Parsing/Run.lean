import CrateShelf.Source.Parsing.Recover

/-!
# Reading a text

All heads go on in turn, each up to the next token.  After each turn the heads
are compared: the worse ones are given up, and if no head can go on, the best
of those that wait goes on after a fault.
-/

namespace CrateShelf.Source

namespace Parsing

variable (table : Table)

/-! ## One step of a head -/

/-- What a head did with a token. -/
inductive Deed where
  /-- It has read the token or come to the end of its way. -/
  | done
  /-- It has made phrases, and goes on with the first new head, if there is
  one. -/
  | reduced (first? : Option Nat)
  /-- There was nothing to do. -/
  | none

/-- Does one thing after another with a token, up to the first that ends
it.  Without a token an extra phrase ends here. -/
def act (index : Nat) (token? : Option ParseTree) :
    List Action → Deed → Parsing Deed
  | [], deed => return deed
  | .shift target isRepeating :: rest, deed => do
    match token?, isRepeating with
    | some token, false =>
      modify fun stack =>
        let plain := token.withInfo fun info => { info with isExtra := false }
        let stack := stack.push index (some plain) target
        match token.info.hashes with
        | some hashes => stack.changeHead index fun head =>
            { head with hashes := some hashes }
        | none => stack
      return .done
    | _, _ => act index token? rest deed
  | .reduce phrase count shape :: rest, deed => do
    let first? ← reduce table index phrase count shape token?.isNone
    let known? := match deed with
      | .reduced known? => known?
      | _ => none
    act index token? rest (.reduced (first? <|> known?))
  | .accept :: rest, deed => do
    match token? with
    | some token =>
      accept table index token
      return .done
    | none => act index token? rest deed
  | .recover :: rest, deed => do
    match token? with
    | some token =>
      recover table index token
      return .done
    | none => act index token? rest deed

/-- Goes on with a head and a token until the token is read or nothing more
can be done; the number bounds how many phrases are made.  A head that is at a
fault already goes on past the token then; any other head waits.  Yields
whether the head needs another token. -/
def settle (index : Nat) (token? : Option ParseTree) :
    (fuel : Nat) → List Action → Parsing Bool
  | 0, _ => do
    modify fun stack => stack.halt index
    return false
  | fuel + 1, actions => do
    match ← act table index token? actions .none with
    | .done => return false
    | .reduced (some first) =>
      modify fun stack => stack.move first index
      let state := ((← get).top index).state
      match token? with
      | none => return true
      | some token =>
        settle index token? fuel (table.actionsFor state token.symbol)
    | .reduced none =>
      modify fun stack => stack.halt index
      return false
    | .none =>
      match token? with
      | none =>
        modify fun stack => stack.halt index
        return false
      | some token =>
        let state := ((← get).top index).state
        let word := table.vocabulary.word
        let asWord := table.actions state word
        if token.info.isKeyword && token.symbol ≠ .known word &&
            !asWord.isEmpty then
          let token := token.withInfo fun info =>
            { info with
              symbol := .known word
              isVisible := table.vocabulary.isVisible word }
          settle index (some token) fuel asWord
        else if state = 0 then
          recover table index token
          return false
        else
          modify fun stack =>
            let weight := (stack.top index).weight
            stack.changeHead index fun head =>
              { head with
                standing := .paused token
                weightAtFault := weight }
          return false

/-- The next token for a head; none where an extra phrase ends. -/
def nextToken? (text : SourceText) (stack : Stack) (index : Nat) :
    Option ParseTree :=
  let knot := stack.top index
  if (table.row knot.state).endsExtra then none
  else
    let mayBeEmpty (token : Nat) : Bool :=
      stack.hasAdvanced index && table.next knot.state token != knot.state
    some (table.token knot.state (stack.head index).hashes mayBeEmpty
      (text.rest knot.place.chars) (knot.place.chars = 0))

/-- How many phrases may be made before a token is read, at most. -/
def mostPhrases : Nat := 1000000

/-- Goes on with a head up to the next token. -/
def advance (text : SourceText) (index : Nat) :
    (fuel : Nat) → Parsing Unit
  | 0 => return
  | fuel + 1 => do
    let stack ← get
    let state := (stack.top index).state
    let token? := nextToken? table text stack index
    let actions := match token? with
      | some token => table.actionsFor state token.symbol
      | none => table.actions state table.vocabulary.ending
    if ← settle table index token? mostPhrases actions then
      advance text index fuel

/-! ## Comparing heads -/

/-- Compares a head with those before it.  Yields where the next head is.
The merit of the head is the one that it had first. -/
def compareHead (merit : Merit) :
    (fuel : Nat) → (index other : Nat) → Parsing Nat
  | 0, index, _ => return index + 1
  | fuel + 1, index, other => do
    if index ≤ other then return index + 1
    else
      let mergeOr (otherwise : Parsing Nat) : Parsing Nat := do
        match (← get).merge? other index with
        | some merged =>
          set merged
          return index
        | none => otherwise
      match (← meritOf other).compare merit with
      | .onlyFirst =>
        modify fun stack => stack.remove index
        return index
      | .first | .neither =>
        mergeOr (compareHead merit fuel index (other + 1))
      | .second =>
        mergeOr do
          modify fun stack => { stack with
            heads := stack.heads.swapIfInBounds index other }
          compareHead merit fuel index (other + 1)
      | .onlySecond =>
        modify fun stack => stack.remove other
        compareHead merit fuel (index - 1) other

/-- Compares all heads from an index on with those before them.  Yields the
least cost of a head that is not at a fault. -/
def compareHeads : (fuel : Nat) → (index : Nat) → (least : Option Nat) →
    Parsing (Option Nat)
  | 0, _, least => return least
  | fuel + 1, index, least => do
    let stack ← get
    if stack.heads.size ≤ index then return least
    else if (stack.head index).isHalted then
      modify fun stack => stack.remove index
      compareHeads fuel index least
    else
      let merit ← meritOf index
      let least :=
        if merit.isFaulty then least
        else some (min merit.cost (least.getD merit.cost))
      let following ← compareHead merit (stack.heads.size + 1) index 0
      compareHeads fuel following least

/-- Lets the first head that waits go on after a fault, if no other head goes
on; all others that wait are taken away.  Yields the least cost. -/
def resume : (fuel : Nat) → (index count : Nat) → (isGoing : Bool) →
    (least : Option Nat) → Parsing (Option Nat)
  | 0, _, _, _, least => return least
  | fuel + 1, index, count, isGoing, least => do
    if count ≤ index then return least
    else
      let stack ← get
      match (stack.head index).standing with
      | .paused token =>
        if !isGoing && stack.count < mostHeads then
          let least := some (stack.costOf index)
          modify fun stack => stack.changeHead index fun head =>
            { head with standing := .active }
          handleFault table index token
          resume fuel (index + 1) count true least
        else
          modify fun stack => stack.remove index
          resume fuel index (count - 1) isGoing least
      | _ => resume fuel (index + 1) count true least

/-- Compares the heads, gives up those that are too many, and goes on after a
fault if need be.  Yields the least cost. -/
def condense : Parsing (Option Nat) := do
  let size := (← get).heads.size
  let least ← compareHeads (2 * size + 2) 0 none
  modify fun stack => { stack with heads := stack.heads.extract 0 mostHeads }
  let size := (← get).heads.size
  resume table (size + 1) 0 size false least

/-! ## All turns -/

/-- Goes on with a head until it has read something.  Yields the furthest
place that a head has come to. -/
def advanceHead (text : SourceText) (index : Nat) :
    (fuel : Nat) → (reach : Nat) → Parsing Nat
  | 0, reach => return reach
  | fuel + 1, reach => do
    if ((← get).head index).isActive then
      advance table text index mostPhrases
      let place := ((← get).top index).place.bytes
      if reach < place || (0 < index && place = reach) then return place
      else advanceHead text index fuel reach
    else return reach

/-- Goes on with all heads from an index on. -/
def advanceHeads (text : SourceText) (steps : Nat) :
    (fuel : Nat) → (index reach : Nat) → Parsing Nat
  | 0, _, reach => return reach
  | fuel + 1, index, reach => do
    if (← get).heads.size ≤ index then return reach
    else
      let reach ← advanceHead table text index steps reach
      advanceHeads text steps fuel (index + 1) reach

/-- Lets heads take turns until the text is read; `fuel` bounds the number of
turns. -/
def takeTurns (text : SourceText) (steps : Nat) :
    (fuel : Nat) → (reach : Nat) → Parsing Unit
  | 0, _ => return
  | fuel + 1, reach => do
    let reach ← advanceHeads table text steps steps 0 reach
    if (← get).heads.isEmpty then return
    else
      let least ← condense table
      let isDone := match (← get).finished, least with
        | some tree, some least => decide (tree.cost < least)
        | some _, none => true
        | none, _ => false
      if isDone then return else takeTurns text steps fuel reach

end Parsing

/-- The tree of a text. -/
def Table.parse (table : Table) (text : SourceText) : Option ParseTree :=
  let steps := 1000 * (text.rests.size + 100)
  let parsing := Parsing.takeTurns table text steps steps 0
  (parsing.run .begin).2.finished

end CrateShelf.Source
