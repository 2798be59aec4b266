import CrateShelf.Source.Automaton.Merge
import CrateShelf.Source.Lexing.Glance

/-!
# The table of a grammar

What a reader of texts needs to know of a grammar: for each state what to do
with each token, where to go after each phrase, and which tokens to look for.
-/

namespace CrateShelf.Source

/-- What a state does with a token. -/
inductive Action where
  /-- Reads the token and goes to a state. -/
  | shift (target : Nat) (isRepeating : Bool)
  /-- So many parts are a phrase. -/
  | reduce (phrase count shape : Nat)
  /-- The whole text has been read. -/
  | accept
  /-- The token is passed over as a fault. -/
  | recover
deriving DecidableEq, Repr, Inhabited

/-- A row of the table. -/
structure Row where
  /-- What to do with each token. -/
  actions : Array (List Action)
  /-- Where to go after each phrase; zero where the phrase cannot stand. -/
  gotos : Array Nat
  /-- The number of the set of tokens to look for. -/
  lookout : Nat
  /-- The tokens to look for by special scanning, as a set of their
  indices. -/
  scans : Nat
  /-- Whether an extra phrase ends here whatever comes next. -/
  endsExtra : Bool
deriving Inhabited

/-- The table of a grammar. -/
structure Table where
  vocabulary : Vocabulary
  shapes : Array Shape
  machine : Machine
  rows : Array Row
  /-- The sets of tokens to look for. -/
  lookouts : Array Lookout
  /-- The words that are tokens of their own. -/
  keywords : Std.HashMap String Nat
  /-- The tokens in the order in which they are thought to be missing. -/
  missing : List Nat
  /-- The order of symbols among trees for one text. -/
  precedence : Array Nat
deriving Inhabited

/-! ## Tokens that follow each other -/

/-- The tokens that can follow each symbol at once. -/
def Outline.afterSymbols (outline : Outline) : Array TokenSet :=
  outline.table.places.fold
    (fun sets (_, production) _ =>
      (List.range (production.size - 1)).foldl
        (fun sets place =>
          let step := production.getD place default
          let next := production.getD (place + 1) default
          sets.modify step.symbol (·.join (outline.firstsOf next.symbol)))
        sets)
    (Array.replicate outline.vocabulary.size (0 : TokenSet))

/-- The tokens that can follow each token at once. -/
def Outline.following (outline : Outline) : Array (List Nat) :=
  let count := outline.vocabulary.tokenCount
  let after := outline.afterSymbols
  let sets := (List.range outline.vocabulary.size).foldl
    (fun sets symbol =>
      (TokenSet.members count (outline.lastsOf symbol)).foldl
        (fun sets token =>
          sets.modify token (TokenSet.join (after.getD symbol 0))) sets)
    (Array.replicate count (0 : TokenSet))
  sets.map (TokenSet.members count)

/-- The words that are tokens of their own: given texts that a name could
be. -/
def Vocabulary.keywords (vocabulary : Vocabulary) (machine : Machine) :
    List (String × Nat) :=
  vocabulary.tokens.toList.zipIdx.filterMap fun (info, token) =>
    match info.lexeme.pattern with
    | .text text =>
      if machine.isToken vocabulary.word text then
        some (String.ofList text, token)
      else none
    | _ => none

/-! ## The tokens of the states -/

/-- What is known when the table is written. -/
structure Basis where
  space : StateSpace
  machine : Machine
  clashes : Clashes
  keywords : List (String × Nat)

namespace Basis

variable (basis : Basis)

/-- The vocabulary of the grammar. -/
def vocabulary : Vocabulary := basis.space.outline.vocabulary

/-- The tokens that begin extra phrases. -/
def extraTokens : TokenSet := .ofList (basis.space.extraStarts.map (·.1))

/-- The tokens with which a state does something. -/
def tokensOf (state : State) : TokenSet :=
  let core := basis.space.cores.getD state.core default
  let own := state.ends.foldl
    (fun set number => set.join (basis.space.table.set number)) core.shifts
  if own.has basis.vocabulary.extraEnding then own
  else own.join basis.extraTokens

/-- The tokens that clash with a token where states are merged.  A word does
not clash with the words that are tokens of their own. -/
def clashing (token : Nat) : TokenSet :=
  let set := basis.clashes.conflicts token
  let words : TokenSet := .ofList (basis.keywords.map (·.2))
  if token = basis.vocabulary.word then set.without words
  else if words.has token then set.without (.single basis.vocabulary.word)
  else set

/-- The tokens that need special scanning or end an extra phrase: only states
that know the same of them can be merged. -/
def strict : TokenSet :=
  ((TokenSet.below basis.vocabulary.ending).without
    (.below basis.vocabulary.tokenCount)).join
    (.single basis.vocabulary.extraEnding)

/-- For each token the tokens that clash with it. -/
def clashesWith : Array TokenSet :=
  let count := basis.vocabulary.tokenCount
  count.fold
    (fun token _ sets =>
      (TokenSet.members count (basis.clashing token)).foldl
        (fun sets other => sets.modify other (·.join (.single token))) sets)
    (Array.replicate count (0 : TokenSet))

/-- The states as they are merged. -/
def members : Array Member :=
  let count := basis.vocabulary.tokenCount
  let clashesWith := basis.clashesWith
  let strict := basis.strict
  let refusedBy (tokens : TokenSet) : TokenSet :=
    (TokenSet.members count tokens).foldl
      (fun set token => TokenSet.join set (clashesWith.getD token 0)) strict
  (basis.space.states.foldl
    (fun (known, members) state =>
      let tokens := basis.tokensOf state
      let core := basis.space.cores.getD state.core default
      let ends := state.ends.map basis.space.table.set
      let reduced := ends.foldl TokenSet.join 0
      let refused := (known[tokens]?).getD (refusedBy tokens)
      let isFollowed (symbol : Nat) : Bool :=
        !reduced.has symbol ||
          (judge basis.space.outline core symbol
            (Merger.placesFor ends symbol)).isShifted
      let targets := state.targets.mapIdx fun index target =>
        let symbol := (core.edges.getD index default).symbol
        if basis.vocabulary.isPhrase symbol || isFollowed symbol then target
        else 0
      (known.insert tokens refused,
        members.push { core := state.core, tokens, refused, ends, targets }))
    (({} : Std.HashMap TokenSet TokenSet), (#[] : Array Member))).2

/-! ## The state for faults -/

/-- The tokens that some state knows together with each token. -/
def companions : Array TokenSet :=
  let count := basis.vocabulary.tokenCount
  let sets := basis.space.states.foldl
    (fun (known : Std.HashMap TokenSet Unit) state =>
      known.insert ((basis.tokensOf state).meet (.below count)) ()) {}
  sets.fold
    (fun companions set _ =>
      (TokenSet.members count set).foldl
        (fun companions token => companions.modify token (·.join set))
        companions)
    (Array.replicate count (0 : TokenSet))

/-- The tokens to look for where the text is at fault: those that hide no
other token, and those that hide none of these. -/
def faultTokens (companions : Array TokenSet) : List Nat :=
  let count := basis.vocabulary.tokenCount
  let words : TokenSet := .ofList (basis.keywords.map (·.2))
  let isApart (token other : Nat) : Bool :=
    !(companions.getD token 0).has other
  let free := (List.range count).filter fun token =>
    !(List.range count).any fun other =>
      other != token && isApart token other &&
        basis.clashes.isShorterOrLonger token other
  (List.range count).filter fun token =>
    free.contains token || words.has token ||
      token = basis.vocabulary.word ||
      !free.any fun other =>
        isApart token other && (basis.clashes.conflicts token).has other

/-! ## Sets of tokens to look for -/

/-- Whether two sets of tokens can be looked for together. -/
def canLookOut (companions : Array TokenSet) (set other : TokenSet) :
    Bool :=
  let count := basis.vocabulary.tokenCount
  let below := TokenSet.below count
  (TokenSet.members count (set.differ other)).all fun token =>
    let against := (if set.has token then other else set).meet below
    let clashing := (basis.clashes.conflicts token).join
      (basis.clashes.cutsShort.getD token 0)
    !clashing.meets against &&
      (TokenSet.members count
          (against.without (companions.getD token 0))).all fun other =>
        !(basis.clashes.overlaps other).has token &&
          !(basis.clashes.overlaps token).has other

/-- Adds a set of tokens to the first set that it can be looked for with, and
yields the number of that set. -/
def placeLookout (companions : Array TokenSet) (set : TokenSet)
    (number : Nat) :
    List TokenSet → List TokenSet × Nat
  | [] => ([set], number)
  | first :: rest =>
    if basis.canLookOut companions first set then
      (first.join set :: rest, number)
    else
      let (rest, found) := placeLookout companions set (number + 1) rest
      (first :: rest, found)

/-- Numbers the sets of tokens that rows look for.  A set that came before
is looked for where it was then: a set that it could not join has only
grown, and the set that it joined has grown by nothing that clashes with
it. -/
def placeLookouts (companions : Array TokenSet)
    (rows : Array (Row × TokenSet)) : Array Row × List TokenSet :=
  let (rows, lookouts, _) := rows.foldl
    (fun (rows, lookouts, known) (row, set) =>
      match known[set]? with
      | some number =>
        (rows.push { row with lookout := number }, lookouts, known)
      | none =>
        let (lookouts, number) :=
          basis.placeLookout companions set 0 lookouts
        (rows.push { row with lookout := number }, lookouts,
          known.insert set number))
    ((#[] : Array Row), ([] : List TokenSet),
      ({} : Std.HashMap TokenSet Nat))
  (rows, lookouts)

/-! ## The table -/

/-- What a member does with a token, with states replaced by their groups. -/
def actionsFor (groups : Groups) (member : Member) (token : Nat) :
    List Action :=
  let core := basis.space.cores.getD member.core default
  let verdict := judge basis.space.outline core token
    (Merger.placesFor member.ends token)
  let completions := verdict.completions.map fun
    | .accept => Action.accept
    | .reduce phrase count shape => .reduce phrase count shape
  if verdict.isShifted then
    match core.edges.findIdx? (·.symbol = token) with
    | some index =>
      let target := groups.groupOf.getD (member.targets.getD index 0) 0
      completions ++ [.shift target verdict.isRepeating]
    | none => completions
  else if verdict.completions.isEmpty then
    match basis.space.extraStarts.find? (·.1 = token) with
    | some (_, state) => [.shift (groups.groupOf.getD state 0) false]
    | none => []
  else completions

/-- The actions of the states in a group. -/
def groupActions (groups : Groups) (members : Array Member)
    (group : List Nat) : Array (List Action) :=
  let bound := basis.vocabulary.phraseBase
  (group.foldl
    (fun (known, actions) number =>
      let member := members.getD number default
      let fresh := member.tokens.without known
      (TokenSet.join known member.tokens,
        if fresh = 0 then actions
        else (TokenSet.members bound fresh).foldl
          (fun actions token =>
            actions.set! token (basis.actionsFor groups member token))
          actions))
    ((0 : TokenSet), Array.replicate bound ([] : List Action))).2

/-- Where the states in a group go after phrases. -/
def groupGotos (groups : Groups) (members : Array Member)
    (group : List Nat) : Array Nat :=
  let base := basis.vocabulary.phraseBase
  group.foldl
    (fun gotos number =>
      let member := members.getD number default
      let core := basis.space.cores.getD member.core default
      core.edges.zipIdx.foldl
        (fun gotos (edge, index) =>
          if base ≤ edge.symbol then
            gotos.set! (edge.symbol - base)
              (groups.groupOf.getD (member.targets.getD index 0) 0)
          else gotos) gotos)
    (Array.replicate basis.vocabulary.phrases.size 0)

/-- The row of a group; the sets of tokens to look for are numbered later. -/
def row (groups : Groups) (members : Array Member)
    (faultTokens : List Nat) (number : Nat) (group : List Nat) :
    Row × TokenSet :=
  let vocabulary := basis.vocabulary
  let actions := basis.groupActions groups members group
  let actions :=
    if number = 0 then
      let scanned := (List.range vocabulary.scanned.size).map
        (vocabulary.tokenCount + ·)
      (faultTokens ++ scanned ++ [vocabulary.ending]).foldl
        (fun actions token =>
          if (actions.getD token []).isEmpty then
            actions.set! token [.recover]
          else actions) actions
    else actions
  let known := actions.zipIdx.foldl
    (fun set (actions, token) =>
      if actions.isEmpty then set else TokenSet.join set (.single token)) 0
  let words : TokenSet := .ofList (basis.keywords.map (·.2))
  let plain := TokenSet.meet known (.below vocabulary.tokenCount)
  let withoutWords := TokenSet.without plain words
  let lookout :=
    if TokenSet.meets plain words then
      withoutWords.join (.single vocabulary.word)
    else withoutWords
  let lookout :=
    if TokenSet.has known vocabulary.ending then
      lookout.join (.single vocabulary.ending)
    else lookout
  let scans := (TokenSet.meet known (.below vocabulary.ending)) >>>
    vocabulary.tokenCount
  ({ actions
     gotos := basis.groupGotos groups members group
     lookout := 0
     scans
     endsExtra := TokenSet.has known vocabulary.extraEnding }, lookout)

/-- How to look for the tokens of a set. -/
def lookout (set : TokenSet) : Lookout :=
  let tokens := TokenSet.members basis.vocabulary.tokenCount set
  { starts := basis.machine.startsOf tokens
    restarts := basis.machine.startsOf (tokens.filter fun token =>
      !basis.machine.attached.getD token false)
    mayEnd := set.has basis.vocabulary.ending }

/-- The tokens that are read somewhere, the token for words first. -/
def missingOrder (rows : Array Row) : List Nat :=
  let vocabulary := basis.vocabulary
  let isUsed (token : Nat) : Bool :=
    rows.any fun row => !(row.actions.getD token []).isEmpty
  let tokens := (List.range vocabulary.ending).filter fun token =>
    token != vocabulary.word && isUsed token
  vocabulary.word :: tokens

/-- The table of a grammar. -/
def table : Table :=
  let vocabulary := basis.vocabulary
  let members := basis.members
  let groups := Merger.groups
    { outline := basis.space.outline, cores := basis.space.cores, members }
  let companions := basis.companions
  let faultTokens := basis.faultTokens companions
  let rows := groups.members.mapIdx
    (basis.row groups members faultTokens)
  let (rows, lookouts) := basis.placeLookouts companions rows
  let missing := basis.missingOrder rows
  let phrases := (List.range vocabulary.phrases.size).map vocabulary.phrase
  let ordered := vocabulary.ending :: missing ++ phrases
  let precedence := ordered.zipIdx.foldl
    (fun order (symbol, place) => order.set! symbol place)
    (Array.replicate vocabulary.size 0)
  { vocabulary
    shapes := basis.space.outline.table.shapes
    machine := basis.machine
    rows
    lookouts := (lookouts.map basis.lookout).toArray
    keywords := Std.HashMap.ofList basis.keywords
    missing, precedence }

end Basis

/-- The table of a grammar. -/
def Grammar.table (grammar : Grammar) : Table :=
  let vocabulary := grammar.vocabulary
  let outline := vocabulary.outline
  let machine := Machine.ofTokens vocabulary.tokens
  let basis : Basis := {
    space := outline.stateSpace
    machine
    clashes := Clashes.ofMachine machine outline.following
    keywords := vocabulary.keywords machine }
  basis.table

end CrateShelf.Source
