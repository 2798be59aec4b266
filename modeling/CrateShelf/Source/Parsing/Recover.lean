import CrateShelf.Source.Parsing.Rank

/-!
# Reading on after a fault

At a token that no head can go on with there are three ways out.  A token may
be missing in front of it; or reading goes back to a state that can go on with
it, and what was read since then is at fault; or the token itself is passed
over.
-/

namespace CrateShelf.Source

namespace Parsing

variable (table : Table)

/-! ## All phrases that can be made -/

/-- What actions amount to when all phrases are made that can be made:
whether a token can be read, and the phrases, each once. -/
def possible (actions : List Action) : Bool × List (Nat × Nat × Nat) :=
  actions.foldl
    (fun (canShift, phrases) action =>
      match action with
      | .shift _ isRepeating => (canShift || !isRepeating, phrases)
      | .recover => (true, phrases)
      | .reduce phrase count shape =>
        let isKnown := phrases.any fun (known, size, _) =>
          known = phrase && size = count
        if count = 0 || isKnown then (canShift, phrases)
        else (canShift, phrases ++ [(phrase, count, shape)])
      | .accept => (canShift, phrases))
    (false, [])

/-- Makes several phrases on a head; yields the first new head of the last
one. -/
def reduceEach (index : Nat) :
    List (Nat × Nat × Nat) → Option Nat → Parsing (Option Nat)
  | [], last => return last
  | (phrase, count, shape) :: rest, _ => do
    reduceEach index rest (← reduce table index phrase count shape false)

/-- Makes all phrases that can be made on a head and on the new heads, before
a token or, without one, before any token.  Yields whether some head can read
the token then.  A head that cannot is taken away. -/
def reduceAll (start size : Nat) (token? : Option Nat) :
    (fuel : Nat) → (round index : Nat) → (canShift : Bool) → Parsing Bool
  | 0, _, _, canShift => return canShift
  | fuel + 1, round, index, canShift => do
    let stack ← get
    let count := stack.heads.size
    if count ≤ index then return canShift
    else
      let others := (List.range index).drop size
      match stack.mergeFirst? index others with
      | some merged =>
        set merged
        reduceAll start size token? fuel (round + 1) index canShift
      | none =>
        let state := (stack.top index).state
        let actions := match token? with
          | some token => table.actions state token
          | none => table.missing.flatMap (table.actions state)
        let (isShifted, phrases) := possible actions
        let first? ← reduceEach table index phrases none
        let following := if index = start then count else index + 1
        if isShifted then
          reduceAll start size token? fuel (round + 1) following true
        else
          match first? with
          | some first =>
            if round < mostHeads then
              modify fun stack => stack.move first index
              reduceAll start size token? fuel (round + 1) index canShift
            else
              if token?.isSome then
                modify fun stack => stack.remove index
              reduceAll start size token? fuel (round + 1) following canShift
          | none =>
            if token?.isSome then
              modify fun stack => stack.remove index
            reduceAll start size token? fuel (round + 1) following canShift

/-- Makes all phrases that can be made on a head before a token.  At the end
of the text they are those that can be made before any token. -/
def reduceBefore (index : Nat) (token? : Option Nat) : Parsing Bool := do
  let size := (← get).heads.size
  let token? := token?.filter (· != table.vocabulary.ending)
  reduceAll table index size token? 1000 0 index false

/-! ## Going back -/

/-- Puts what was taken off heads on them as a fault, on those that are in a
state then.  Yields whether there are any. -/
def putFaults (state : Nat) : List Stack.Taken → Parsing Bool
  | [] => return false
  | taken :: rest => do
    let stack ← get
    if (stack.top taken.head).state != state then
      modify fun stack => stack.halt taken.head
      putFaults state rest
    else
      let before? ← modifyGet fun stack =>
        let (stack, parts?) := stack.takeFault taken.head
        (parts?, stack)
      let trees := before?.getD [] ++ taken.ways.headD []
      let (parts, extras) := ParseTree.splitExtras trees
      let fault :=
        if parts.isEmpty then []
        else [(table.tree .fault #[] parts).withInfo fun info =>
          { info with isExtra := true }]
      pushAll taken.head state (fault ++ extras)
      let _ ← putFaults state rest
      return true

/-- Takes trees off a head and goes on in a state with a fault. -/
def goBack (index depth state : Nat) : Parsing Bool := do
  let taken ← modifyGet fun stack =>
    let (stack, taken) := stack.takeTrees index depth
    (taken, stack)
  putFaults table state taken

/-- Goes back to the first of some states that can go on with a token, unless
there is something better.  Yields whether there is such a state. -/
def goBackTo (index heads cost : Nat) (isDeeper : Bool) (token : ParseTree) :
    List Refuge → Parsing Bool
  | [] => return false
  | refuge :: rest => do
    let stack ← get
    let place := (stack.top index).place
    let isReached := (List.range heads).any fun other =>
      (stack.top other).state = refuge.state &&
        (stack.top other).place.bytes = place.bytes
    if refuge.state = 0 || refuge.place.bytes = place.bytes || isReached then
      goBackTo index heads cost isDeeper token rest
    else
      let depth := if isDeeper then refuge.depth + 1 else refuge.depth
      let passed : Extent :=
        { bytes := place.bytes - refuge.place.bytes
          rows := place.rows - refuge.place.rows }
      if ← isSuperfluous index (cost + Cost.ofExtent passed) then
        return false
      else if (table.actionsFor refuge.state token.symbol).isEmpty then
        goBackTo index heads cost isDeeper token rest
      else if ← goBack table index depth refuge.state then return true
      else goBackTo index heads cost isDeeper token rest

/-! ## Passing over a token -/

/-- Takes away the heads from an index on that do not go on. -/
def dropIdle (size : Nat) : Parsing Unit :=
  modify fun stack => { stack with
    heads := stack.heads.extract 0 size ++
      (stack.heads.extract size stack.heads.size).filter Head.isActive }

/-- Passes over a token.  If something was read since the fault began, the
token is put to it. -/
def passOver (index : Nat) (isDeeper : Bool) (token : ParseTree) :
    Parsing Unit := do
  let alone := table.tree .passed #[] [token]
  let passed ←
    if isDeeper then
      modifyGet fun stack =>
        let (stack, taken) := stack.takeTrees index 1
        match taken with
        | first :: _ =>
          let stack := { stack with
            heads := stack.heads.extract 0 (first.head + 1) }
          (table.tree .passed #[] (first.ways.headD [] ++ [alone]),
            stack.move first.head index)
        | [] => (alone, stack)
    else pure alone
  modify fun stack =>
    let stack := stack.push index (some passed) 0
    match token.info.hashes with
    | some hashes => stack.changeHead index fun head =>
        { head with hashes := some hashes }
    | none => stack

/-- Goes on after a fault: back to a state that can go on with a token, or
past the token. -/
def recover (index : Nat) (token : ParseTree) : Parsing Unit := do
  let stack ← get
  let heads := stack.heads.size
  let isDeeper := decide (0 < (← Stack.weightSince index))
  let cost := stack.costOf index
  let refuges :=
    if token.isFault then [] else ((stack.head index).refuges).getD []
  let isBack ← goBackTo table index heads cost isDeeper token refuges
  dropIdle heads
  if token.symbol = .known table.vocabulary.ending then
    modify fun stack => stack.push index (some (table.tree .fault #[] [])) 1
    accept table index token
  else
    let stack ← get
    let isTooMany := decide (mostHeads < stack.heads.size)
    let isRescanned := token.info.hashes.isSome &&
      (stack.head index).hashes != token.info.hashes
    let passing := cost + Cost.tree + Cost.ofExtent token.extent
    let isIdle ←
      if isBack && (isTooMany || isRescanned) then pure true
      else isSuperfluous index passing
    if isIdle then modify fun stack => stack.halt index
    else passOver table index isDeeper token

/-! ## Missing tokens -/

/-- Whether a state begins with making a phrase before a token. -/
def startsWithPhrase (state : Nat) (symbol : Symbol) : Bool :=
  match table.actionsFor state symbol with
  | .reduce _ _ _ :: _ => true
  | _ => false

/-- Tries a missing token before another one on a head. -/
def tryMissing (index : Nat) (token : ParseTree) :
    List Nat → Parsing Bool
  | [] => return false
  | missing :: rest => do
    let stack ← get
    let state := (stack.top index).state
    let target := table.next state missing
    if target = 0 || target = state ||
        !startsWithPhrase table target token.symbol then
      tryMissing index token rest
    else
      let copy := stack.heads.size
      let leaf := (table.leaf (.known missing) {} {}).withInfo fun info =>
        { info with isMissing := true }
      modify fun stack =>
        let head := { stack.head index with refuges := none }
        { stack with heads := stack.heads.push head }.push copy (some leaf)
          target
      let number? := match token.symbol with
        | .known number => some number
        | .fault | .passed => none
      if ← reduceBefore table copy number? then return true
      else tryMissing index token rest

/-- Begins a fault on some heads; on the first where a missing token helps,
it is tried. -/
def beginFaults (token : ParseTree) (isTried : Bool) :
    List Nat → Parsing Unit
  | [] => return
  | index :: rest => do
    let isTried ←
      if isTried then pure true
      else tryMissing table index token table.missing
    modify fun stack => stack.push index none 0
    beginFaults token isTried rest

/-- Merges heads into another one. -/
def mergeInto (index other : Nat) : (count : Nat) → Parsing Unit
  | 0 => return
  | count + 1 => do
    match (← get).merge? index other with
    | some merged => set merged
    | none => pure ()
    mergeInto index other count

/-- Goes on with a head at a token that it cannot go on with. -/
def handleFault (index : Nat) (token : ParseTree) : Parsing Unit := do
  let size := (← get).heads.size
  let _ ← reduceBefore table index none
  let count := (← get).heads.size
  beginFaults table token false
    (index :: (List.range count).drop size)
  mergeInto index size (count - size)
  modify fun stack => stack.noteRefuges index
  recover table index token

end Parsing

end CrateShelf.Source
