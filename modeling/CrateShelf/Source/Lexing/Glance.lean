import CrateShelf.Source.Lexing.Machine

/-!
# Telling the next token

Runs the machine for tokens along a text.  Of all tokens that a text begins
with, the one is meant that was complete last, unless a token with a higher
rank was complete before it.  Blanks are skipped while no token has begun.
-/

namespace CrateShelf.Source

/-- The tokens to look for at one place. -/
structure Lookout where
  /-- Where the tokens start. -/
  starts : List Nat
  /-- Where those tokens start that may stand after a blank. -/
  restarts : List Nat
  /-- Whether the text may end. -/
  mayEnd : Bool
deriving Inhabited

/-- What a look at a text has shown.  All lengths are counted in characters
from where the look began. -/
structure Glance where
  /-- The token, and how far it reaches; no token for the end of the text. -/
  found : Option (Option Nat × Nat) := none
  /-- How many blanks were skipped. -/
  start : Nat := 0
  /-- How many characters were read. -/
  reach : Nat := 0

/-- Where a look at a text has come to. -/
structure Gaze where
  nodes : List Nat
  /-- Whether blanks may still be skipped. -/
  skips : Bool
  /-- Whether the text may end here. -/
  mayEnd : Bool
  glance : Glance := {}

namespace Gaze

variable (machine : Machine) (lookout : Lookout)

/-- Before anything is read. -/
def begin : Gaze where
  nodes := lookout.starts
  skips := !lookout.restarts.isEmpty
  mayEnd := lookout.mayEnd

/-- The highest rank of nodes, if blanks may be skipped instead of reading
them also that of a blank. -/
def rankOf (nodes : List Nat) (isBlank : Bool) : Option Int :=
  let ranks := nodes.map fun number => (machine.node number).rank
  (if isBlank then 0 :: ranks else ranks).max?

/-- Whether a character is read although a token is complete. -/
def goesOn (skips : Bool) (best : Nat × Int) (nexts : List Nat)
    (isBlank : Bool) : Bool :=
  match rankOf machine nexts isBlank with
  | none => false
  | some rank =>
    if rank < best.2 then false
    else if best.2 < rank then true
    else !nexts.isEmpty &&
      (!skips || nexts.any fun number =>
        (machine.node number).token = best.1)

/-- Notes the token that is complete. -/
def note (gaze : Gaze) : Option (Nat × Int) → Glance
  | some best =>
    { gaze.glance with found := some (some best.1, gaze.glance.reach) }
  | none => gaze.glance

/-- Reads a character, if that is any use. -/
def step? (gaze : Gaze) (best? : Option (Nat × Int)) (char : Char) :
    Option Gaze :=
  let nexts := machine.after gaze.nodes char.toNat
  let isBlank := gaze.skips && Charset.blanks.contains char.toNat
  let isTaken :=
    match best? with
    | some best => goesOn machine gaze.skips best nexts isBlank
    | none => !nexts.isEmpty || isBlank
  if isTaken then
    let isSkip := nexts.isEmpty
    let glance := gaze.note best?
    let reach := glance.reach + 1
    some {
      nodes :=
        if isSkip then lookout.restarts
        else if isBlank then
          machine.reached nexts ++ lookout.restarts
        else machine.reached nexts
      skips := isBlank
      mayEnd := gaze.mayEnd && isSkip
      glance := { glance with
        reach, start := if isSkip then reach else glance.start } }
  else none

/-- Looks on along a text. -/
def run (gaze : Gaze) : List Char → Glance
  | [] =>
    let glance := gaze.note (machine.completed gaze.nodes)
    if gaze.mayEnd then { glance with found := some (none, glance.reach) }
    else glance
  | char :: rest =>
    let best? := machine.completed gaze.nodes
    match gaze.step? machine lookout best? char with
    | some next => next.run rest
    | none => gaze.note best?

end Gaze

/-- Looks for tokens at the beginning of a text. -/
def Lookout.look (lookout : Lookout) (machine : Machine)
    (text : List Char) : Glance :=
  (Gaze.begin lookout).run machine lookout text

end CrateShelf.Source
