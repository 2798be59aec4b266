import CrateShelf.Source.Automaton.TokenSet
import CrateShelf.Source.Lexing.Machine

/-!
# Clashes between tokens

Two tokens clash if a text that starts like one can turn out to be the other.
How two tokens clash decides whether they may be looked for at the same place.
-/

namespace CrateShelf.Source

/-- How a token fares against another one. -/
structure Clash where
  /-- It can go on where the other is complete. -/
  continues : Bool := false
  /-- It can go on where the other is complete, with a character that can
  also follow the other. -/
  continuesValidly : Bool := false
  /-- It is complete while only blanks have been read. -/
  isBlank : Bool := false
  /-- It is preferred for a text that is also the other. -/
  isPreferred : Bool := false
  /-- It is taken where the other could go on. -/
  cutsShort : Bool := false
  /-- It can be a text that the other cannot be. -/
  isOther : Bool := false
deriving DecidableEq, Inhabited

/-- Two tokens and how each fares against the other. -/
structure Duel where
  first : Nat
  second : Nat
  ofFirst : Clash := {}
  ofSecond : Clash := {}

/-- Notes something about one of the two tokens. -/
def Duel.note (duel : Duel) (token : Nat) (change : Clash → Clash) : Duel :=
  if token = duel.first then { duel with ofFirst := change duel.ofFirst }
  else { duel with ofSecond := change duel.ofSecond }

/-- Characters that lead the same nodes on. -/
structure Turn where
  set : Charset
  /-- Whether the characters are only skipped. -/
  isSkip : Bool
  rank : Int
  nexts : List Nat
  /-- Whether blanks may still be skipped afterwards. -/
  skips : Bool

/-- A turn that is taken together with another one. -/
def Turn.merge (turn other : Turn) (set : Charset) : Turn :=
  { set
    isSkip := turn.isSkip && other.isSkip
    rank := max turn.rank other.rank
    nexts := turn.nexts ++ other.nexts.filter fun next =>
      !turn.nexts.contains next
    skips := turn.skips || other.skips }

/-- Splits turns so that a further one is taken apart from them or together
with them. -/
def splitTurns (further : Turn) : List Turn → List Turn
  | [] => if further.set.isEmpty then [] else [further]
  | turn :: rest =>
    let common := turn.set.meet further.set
    if common.isEmpty then turn :: splitTurns further rest
    else
      let outside := turn.set.without common
      let both := turn.merge further common
      let beyond := { further with set := further.set.without common }
      if outside.isEmpty then both :: splitTurns beyond rest
      else both :: { turn with set := outside } :: splitTurns beyond rest

/-- What is needed to compare tokens. -/
structure ClashBasis where
  machine : Machine
  /-- The sets of characters that each token can start with. -/
  startSets : Array (List Charset)
  /-- The tokens that can follow each token. -/
  following : Array (List Nat)

namespace ClashBasis

/-- Whether what follows a token can start with a character of a set. -/
def canFollow (basis : ClashBasis) (token : Nat) (set : Charset) : Bool :=
  (basis.following.getD token []).any fun next =>
    (basis.startSets.getD next []).any set.meets

/-- The tokens of a duel that may skip blanks. -/
def skippers (basis : ClashBasis) (duel : Duel) : List Nat :=
  [duel.first, duel.second].filter fun token =>
    !basis.machine.attached.getD token false

/-- The tokens that nodes belong to. -/
def tokensOf (basis : ClashBasis) (numbers : List Nat) : List Nat :=
  (numbers.map fun number => (basis.machine.node number).token).eraseDups

/-- The turns that can be taken from nodes. -/
def turns (basis : ClashBasis) (duel : Duel) (skips : Bool)
    (numbers : List Nat) : List Turn :=
  let skippers := if skips then basis.skippers duel else []
  let blank : List Turn :=
    if skippers.isEmpty then []
    else [{
      set := Charset.blanks, isSkip := true, rank := 0
      nexts := skippers.map fun token => basis.machine.starts.getD token 0
      skips := true }]
  numbers.foldl
    (fun turns number =>
      let found := basis.machine.node number
      match found.node with
      | .read set next =>
        splitTurns
          { set, isSkip := false, rank := found.rank, nexts := [next]
            skips := false } turns
      | _ => turns) blank

/-- Whether a turn is taken although a token is complete. -/
def prefersTurn (basis : ClashBasis) (skips : Bool) (best : Nat × Int)
    (turn : Turn) : Bool :=
  if turn.rank < best.2 then false
  else if best.2 < turn.rank then true
  else !turn.isSkip &&
    (!skips || (basis.tokensOf turn.nexts).contains best.1)

/-- Notes which of the tokens that are complete at nodes is preferred, and
yields the preferred one. -/
def noteComplete (basis : ClashBasis) (skips : Bool) (duel : Duel)
    (numbers : List Nat) : Duel × Option (Nat × Int) :=
  let complete := (numbers.filterMap fun number =>
    let found := basis.machine.node number
    match found.node with
    | .complete => some (found.token, found.rank)
    | _ => none).mergeSort fun left right => left.1 ≤ right.1
  match complete with
  | [] => (duel, none)
  | first :: rest =>
    if skips then
      (duel.note first.1 fun clash => { clash with isBlank := true }, none)
    else
      rest.foldl
        (fun (duel, best?) found =>
          match best? with
          | some best =>
            if best.1 = found.1 then (duel, best?)
            else
              let winner :=
                if basis.machine.prefers best found then best else found
              (duel.note winner.1 fun clash =>
                { clash with isPreferred := true }, some winner)
          | none => (duel, some found))
        (duel, some first)

/-- Notes what a turn tells about two tokens, given the one that is complete
before it.  Yields whether the turn is taken. -/
def noteTurn (basis : ClashBasis) (skips : Bool) (best? : Option (Nat × Int))
    (duel : Duel) (turn : Turn) : Duel × Bool :=
  match best? with
  | none => (duel, true)
  | some best =>
    let tokens := basis.tokensOf turn.nexts
    match tokens.filter (· != best.1) with
    | other :: _ =>
      if tokens.contains best.1 then (duel, true)
      else if basis.prefersTurn skips best turn then
        let isValid := basis.canFollow best.1 turn.set
        (duel.note other fun clash =>
          { clash with
            continues := true
            continuesValidly := clash.continuesValidly || isValid }, true)
      else
        (duel.note best.1 fun clash => { clash with cutsShort := true },
          false)
    | [] => (duel, true)

/-- Goes through the places that two tokens can be at together; `fuel`
bounds how many there are. -/
def explore (basis : ClashBasis) :
    (fuel : Nat) → List (Bool × List Nat) → List (Bool × List Nat) →
    Duel → Duel
  | 0, _, _, duel => duel
  | _, [], _, duel => duel
  | fuel + 1, (skips, nexts) :: pending, seen, duel =>
    match basis.tokensOf nexts with
    | [only] =>
      explore basis fuel pending seen
        (duel.note only fun clash => { clash with isOther := true })
    | _ =>
      let numbers := basis.machine.reached nexts
      let isSkipping := skips && !(basis.skippers duel).isEmpty
      let (duel, best?) := basis.noteComplete isSkipping duel numbers
      let (duel, further, seen) :=
        (basis.turns duel skips numbers).foldl
          (fun (duel, further, seen) turn =>
            let (duel, isTaken) := basis.noteTurn isSkipping best? duel turn
            let place :=
              (turn.skips, turn.nexts.mergeSort fun left right =>
                left ≤ right)
            if isTaken && !seen.contains place then
              (duel, place :: further, place :: seen)
            else (duel, further, seen))
          (duel, ([] : List (Bool × List Nat)), seen)
      explore basis fuel (further ++ pending) seen duel

/-- How two tokens fare against each other. -/
def compare (basis : ClashBasis) (first second : Nat) : Duel :=
  let start (token : Nat) := basis.machine.starts.getD token 0
  basis.explore 10000 [(true, [start first, start second])] []
    { first, second }

end ClashBasis

/-- For each token, the tokens against which it fares in a certain way. -/
structure Clashes where
  continues : Array TokenSet
  continuesValidly : Array TokenSet
  isBlank : Array TokenSet
  isPreferred : Array TokenSet
  cutsShort : Array TokenSet
deriving Inhabited

namespace Clashes

/-- The tokens that a token would hide or be hidden by. -/
def conflicts (clashes : Clashes) (token : Nat) : TokenSet :=
  ((clashes.continuesValidly.getD token 0).join
    (clashes.isBlank.getD token 0)).join
    (clashes.isPreferred.getD token 0)

/-- The tokens with which a token has some text in common. -/
def overlaps (clashes : Clashes) (token : Nat) : TokenSet :=
  (((clashes.isBlank.getD token 0).join
    (clashes.cutsShort.getD token 0)).join
    (clashes.isPreferred.getD token 0)).join
    (clashes.continues.getD token 0)

/-- Whether a token is shorter or longer than another one in a text that may
be either. -/
def isShorterOrLonger (clashes : Clashes) (token other : Nat) : Bool :=
  ((clashes.continuesValidly.getD token 0).has other ||
    (clashes.isBlank.getD token 0).has other) &&
    !(clashes.isBlank.getD other 0).has token

/-- Adds how a token fares against another one. -/
def add (clashes : Clashes) (token other : Nat) (clash : Clash) : Clashes :=
  let note (flag : Bool) (sets : Array TokenSet) :=
    if flag then sets.modify token (·.join (.single other)) else sets
  { continues := note clash.continues clashes.continues
    continuesValidly :=
      note clash.continuesValidly clashes.continuesValidly
    isBlank := note clash.isBlank clashes.isBlank
    isPreferred := note clash.isPreferred clashes.isPreferred
    cutsShort := note clash.cutsShort clashes.cutsShort }

/-- How the tokens of a machine fare against each other. -/
def ofMachine (machine : Machine) (following : Array (List Nat)) :
    Clashes :=
  let count := machine.starts.size
  let startSets := (Array.range count).map fun token =>
    let own := (machine.startsOf [token]).filterMap fun number =>
      match (machine.node number).node with
      | .read set _ => some set
      | _ => none
    if machine.attached.getD token false then own
    else Charset.blanks :: own
  let basis : ClashBasis := { machine, startSets, following }
  let none := Array.replicate count (0 : TokenSet)
  let start : Clashes := ⟨none, none, none, none, none⟩
  count.fold
    (fun first _ clashes =>
      first.fold
        (fun second _ clashes =>
          let duel := basis.compare first second
          (clashes.add first second duel.ofFirst).add second first
            duel.ofSecond) clashes) start

end Clashes

end CrateShelf.Source
