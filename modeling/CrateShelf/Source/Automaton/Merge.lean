import CrateShelf.Source.Automaton.State
import CrateShelf.Source.Lexing.Clash

/-!
# Merging states

States with one core can be one state if they do the same with every token
that both know, if no token that only one of them knows clashes with a token
of the other, and if what they lead to can be one state as well.  States are
sorted into groups by this, first by what they do themselves and then, again
and again, by what they lead to.
-/

namespace CrateShelf.Source

/-- What decides about merging a state. -/
structure Member where
  core : Nat
  /-- The tokens with which the state does something. -/
  tokens : TokenSet
  /-- The tokens that a state merged with this one may not have in
  addition. -/
  refused : TokenSet
  /-- The tokens for which each item at its end is reduced. -/
  ends : Array TokenSet
  /-- The states that the edges of the core lead to; zero where ranks forbid
  to follow the edge. -/
  targets : Array Nat
deriving Inhabited

/-- What decides about merging states. -/
structure Merger where
  outline : Outline
  cores : Array Core
  members : Array Member

namespace Merger

/-- The places of the items at their end that are reduced for a token. -/
def placesFor (ends : Array TokenSet) (token : Nat) : Nat :=
  ends.zipIdx.foldl
    (fun places (set, place) =>
      if set.has token then TokenSet.join places (.single place)
      else places) 0

/-- What a member does with a token. -/
def verdict (outline : Outline) (cores : Array Core) (member : Member)
    (token : Nat) : Verdict :=
  judge outline (cores.getD member.core default) token
    (placesFor member.ends token)

/-- Whether two members differ in some edge that both follow, by the groups
that their targets are in. -/
def leadApart (groups : Array Nat) (first second : Array Nat) : Bool :=
  first.size.any fun edge _ =>
    let left := first.getD edge 0
    let right := second.getD edge 0
    left != 0 && right != 0 && groups.getD left 0 != groups.getD right 0

/-- Whether two members differ in some edge over a token that both follow. -/
def leadApartOverTokens (core : Core) (vocabulary : Vocabulary)
    (groups : Array Nat) (first second : Array Nat) : Bool :=
  core.edges.zipIdx.any fun (edge, index) =>
    let left := first.getD index 0
    let right := second.getD index 0
    !vocabulary.isPhrase edge.symbol && left != 0 && right != 0 &&
      groups.getD left 0 != groups.getD right 0

/-- Whether two members of one core cannot be one state by what they do
themselves. -/
def conflict (merger : Merger) (groups : Array Nat)
    (first second : Nat) : Bool :=
  let vocabulary := merger.outline.vocabulary
  let left := merger.members.getD first default
  let right := merger.members.getD second default
  let common := left.tokens.meet right.tokens
  let changed := left.ends.zipIdx.foldl
    (fun changed (set, place) =>
      TokenSet.join changed (set.differ (right.ends.getD place 0))) 0
  let doubtful := TokenSet.meet changed common
  leadApartOverTokens (merger.cores.getD left.core default) vocabulary groups
      left.targets right.targets ||
    (doubtful != 0 &&
      (TokenSet.members vocabulary.phraseBase doubtful).any fun token =>
        verdict merger.outline merger.cores left token ≠
          verdict merger.outline merger.cores right token) ||
    (left.tokens.without common).meets right.refused ||
    (right.tokens.without common).meets left.refused

end Merger

/-! ## Splitting groups -/

/-- States in groups. -/
structure Groups where
  /-- The group of each state. -/
  groupOf : Array Nat
  /-- The states of each group, in order. -/
  members : Array (List Nat)
deriving Inhabited

/-- The members of a list that have to leave because of an earlier member
that stays, in the order in which they are found. -/
def leaving (mustSplit : Nat → Nat → Bool) (left : List Nat) :
    List Nat → List Nat
  | [] => left
  | member :: rest =>
    if left.contains member then leaving mustSplit left rest
    else
      leaving mustSplit
        (left ++ rest.filter fun other =>
          !left.contains other && mustSplit member other) rest

/-- Splits a group in two, if some members have to leave it. -/
def Groups.split (mustSplit : Array Nat → Nat → Nat → Bool)
    (groups : Groups) (group : Nat) : Groups × Bool :=
  let members := groups.members.getD group []
  match members with
  | [] | [_] => (groups, false)
  | _ =>
    match leaving (mustSplit groups.groupOf) [] members with
    | [] => (groups, false)
    | left =>
      let number := groups.members.size
      ({ groupOf := left.foldl
          (fun groupOf member => groupOf.set! member number) groups.groupOf
         members := (groups.members.set! group
          (members.filter fun member => !left.contains member)).push left },
        true)

/-- Splits all groups from a number on, the new ones too; `fuel` bounds how
many there are. -/
def Groups.splitFrom (mustSplit : Array Nat → Nat → Nat → Bool) :
    (fuel : Nat) → (group : Nat) → Groups → Bool → Groups × Bool
  | 0, _, groups, isChanged => (groups, isChanged)
  | fuel + 1, group, groups, isChanged =>
    if group < groups.members.size then
      let (groups, isSplit) := groups.split mustSplit group
      splitFrom mustSplit fuel (group + 1) groups (isChanged || isSplit)
    else (groups, isChanged)

/-- Splits groups again and again until nothing changes. -/
def Groups.refine (mustSplit : Array Nat → Nat → Nat → Bool) :
    (fuel : Nat) → Groups → Groups
  | 0, groups => groups
  | fuel + 1, groups =>
    match groups.splitFrom mustSplit 1000000 0 false with
    | (groups, true) => refine mustSplit fuel groups
    | (groups, false) => groups

/-- The groups of states that can be one state. -/
def Merger.groups (merger : Merger) : Groups :=
  let byCore := merger.members.zipIdx.foldl
    (fun groups (member, number) =>
      groups.modify member.core (number :: ·))
    (Array.replicate merger.cores.size ([] : List Nat))
  let start : Groups :=
    { groupOf := merger.members.map (·.core)
      members := byCore.map List.reverse }
  let (parted, _) := start.splitFrom merger.conflict 1000000 0 false
  parted.refine
    (fun groupOf first second =>
      Merger.leadApart groupOf
        (merger.members.getD first default).targets
        (merger.members.getD second default).targets) 1000

end CrateShelf.Source
