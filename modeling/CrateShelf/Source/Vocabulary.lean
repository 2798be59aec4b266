import CrateShelf.Source.Rule
import Std.Data.HashMap

/-!
# The vocabulary of a grammar

The tokens and phrases of a grammar, numbered, with all the ways in which each
phrase is made of others.  Numbers go up through the tokens that patterns
tell, the tokens that need special scanning, the end of the text, the end of
an extra phrase, and then the phrases.

A repetition becomes a phrase of its own, which is either two repetitions or
one repeated part.
-/

namespace CrateShelf.Source

/-- One part of a production. -/
structure Step where
  /-- The number of the token or phrase. -/
  symbol : Nat
  rank : Option Int := none
  side : Option Side := none
  label : Option Label := none
  field : Option String := none
deriving DecidableEq, Hashable, Repr, Inhabited

/-- One way to make a phrase. -/
abbrev Production := Array Step

/-- A token that a pattern tells. -/
structure TokenInfo where
  /-- The name under which the token is shown. -/
  name : String
  isVisible : Bool
  /-- Whether the name is that of a rule and not the text of the token. -/
  isNamed : Bool
  lexeme : Lexeme
deriving Inhabited

/-- A phrase and the ways to make it. -/
structure PhraseInfo where
  name : String
  isVisible : Bool
  /-- Whether the phrase stands for a repetition. -/
  isRepetition : Bool
  productions : Array Production
deriving Inhabited

/-- The tokens and phrases of a grammar. -/
structure Vocabulary where
  tokens : Array TokenInfo
  scanned : Array String
  phrases : Array PhraseInfo
  /-- The numbers of the extra phrases. -/
  extras : List Nat
  /-- The numbers of the phrases that are put where they are named. -/
  inlined : List Nat
  /-- The number of the token that words are made of. -/
  word : Nat
  /-- What tokens and phrases are called wherever they stand. -/
  usualLabels : Array (Option Label)
deriving Inhabited

namespace Vocabulary

variable (vocabulary : Vocabulary)

/-- The number of tokens that patterns tell. -/
def tokenCount : Nat := vocabulary.tokens.size

/-- The number of the token at the end of the text. -/
def ending : Nat := vocabulary.tokens.size + vocabulary.scanned.size

/-- The number of the end of an extra phrase. -/
def extraEnding : Nat := vocabulary.ending + 1

/-- The number of the first phrase. -/
def phraseBase : Nat := vocabulary.ending + 2

/-- The number of a phrase. -/
def phrase (index : Nat) : Nat := vocabulary.phraseBase + index

/-- The number after the last phrase. -/
def size : Nat := vocabulary.phraseBase + vocabulary.phrases.size

/-- Whether a number is that of a phrase. -/
def isPhrase (symbol : Nat) : Bool := vocabulary.phraseBase ≤ symbol

/-- The name of a token or phrase. -/
def nameOf (symbol : Nat) : String :=
  if symbol < vocabulary.tokenCount then
    (vocabulary.tokens.getD symbol default).name
  else if symbol < vocabulary.ending then
    vocabulary.scanned.getD (symbol - vocabulary.tokenCount) ""
  else if symbol < vocabulary.phraseBase then ""
  else (vocabulary.phrases.getD (symbol - vocabulary.phraseBase) default).name

/-- What a token or phrase is called wherever it stands, if that is not its
name. -/
def usualLabel? (symbol : Nat) : Option Label :=
  vocabulary.usualLabels[symbol]?.join

/-- The name under which a token or phrase is shown. -/
def shownName (symbol : Nat) : String :=
  match vocabulary.usualLabel? symbol with
  | some label => label.name
  | none => vocabulary.nameOf symbol

/-- Whether a name is one that leaves no phrase. -/
def isHiddenName (name : String) : Bool := name.toList.head? = some '_'

/-- Whether a token or phrase leaves a node of its own. -/
def isVisible (symbol : Nat) : Bool :=
  if (vocabulary.usualLabel? symbol).isSome then true
  else if symbol < vocabulary.tokenCount then
    (vocabulary.tokens.getD symbol default).isVisible
  else if symbol < vocabulary.ending then
    !isHiddenName (vocabulary.nameOf symbol)
  else if symbol < vocabulary.phraseBase then false
  else (vocabulary.phrases.getD (symbol - vocabulary.phraseBase)
    default).isVisible

/-- Whether a token or phrase is no mere word or sign. -/
def isNamed (symbol : Nat) : Bool :=
  match vocabulary.usualLabel? symbol with
  | some label => label.isPhrase
  | none =>
    vocabulary.tokenCount ≤ symbol ||
      (vocabulary.tokens.getD symbol default).isNamed

end Vocabulary

/-! ## Finding the tokens -/

/-- A token or phrase before all of them have numbers. -/
inductive Found where
  | token (index : Nat)
  | scanned (index : Nat)
  | phrase (index : Nat)
deriving DecidableEq, Repr, Inhabited

/-- A token, its name if it has one, and how often it is used. -/
structure TokenUse where
  shown : Option String
  isVisible : Bool
  isNamed : Bool := false
  lexeme : Lexeme
  uses : Nat
deriving Inhabited

/-- The names of the phrases and of the scanned tokens. -/
def Grammar.names (grammar : Grammar) : Std.HashMap String Found :=
  let scanned := grammar.scanned.zipIdx.map fun (name, index) =>
    (name, Found.scanned index)
  let phrases := grammar.rules.zipIdx.map fun (rule, index) =>
    (rule.1, Found.phrase index)
  Std.HashMap.ofList (scanned ++ phrases)

/-- Gives a lexeme a place among the tokens, if it has none yet. -/
def placeLexeme (shown : Option String) (lexeme : Lexeme) :
    StateM (Array TokenUse) Found := do
  let known ← get
  match known.findIdx? fun token => token.lexeme = lexeme with
  | some index =>
    set (known.modify index fun token => { token with uses := token.uses + 1 })
    return .token index
  | none =>
    set (known.push { shown, isVisible := shown.isSome, lexeme, uses := 1 })
    return .token known.size

/-- Replaces a mention by what it mentions. -/
def findMention (names : Std.HashMap String Found) :
    Mention → StateM (Array TokenUse) Found
  | .lexeme shown lexeme => placeLexeme shown lexeme
  | .phrase name => return names.getD name (.phrase 0)

/-- The token that a rule is nothing but, if it is used nowhere else and may
take the name of the rule. -/
def onlyToken? (tokens : Array TokenUse) (name : String) :
    Rule Found → Option Nat
  | .part (.token index) =>
    let token := tokens.getD index default
    if token.uses = 1 &&
        (token.shown.isNone || !Vocabulary.isHiddenName name) then some index
    else none
  | _ => none

/-- The rules that remain phrases, and the tokens that take the place of the
others. -/
structure Settled where
  tokens : Array TokenUse
  /-- What each rule has become. -/
  places : Array Found := #[]
  rules : Array (String × Rule Found) := #[]

/-- Goes through one more rule. -/
def Settled.add (settled : Settled) (name : String) (rule : Rule Found) :
    Settled :=
  let asPhrase := { settled with
    places := settled.places.push (.phrase settled.rules.size)
    rules := settled.rules.push (name, rule) }
  if settled.places.isEmpty then asPhrase
  else
    match onlyToken? settled.tokens name rule with
    | none => asPhrase
    | some index => { settled with
        tokens := settled.tokens.modify index fun token =>
          { token with
            shown := some name
            isVisible := !Vocabulary.isHiddenName name
            isNamed := true }
        places := settled.places.push (.token index) }

/-! ## Productions -/

/-- Replaces repetitions by phrases that are numbered from a base on. -/
def liftRepetitions (base : Nat) :
    Rule Nat → StateM (Array (Rule Nat)) (Rule Nat)
  | .repeated rule => do
    let inner ← liftRepetitions base rule
    let known ← get
    match known.findIdx? (· = inner) with
    | some index => return .part (base + index)
    | none =>
      set (known.push inner)
      return .part (base + known.size)
  | .both first second => do
    let first ← liftRepetitions base first
    return .both first (← liftRepetitions base second)
  | .either first second => do
    let first ← liftRepetitions base first
    return .either first (← liftRepetitions base second)
  | .ranked rank side rule =>
    return .ranked rank side (← liftRepetitions base rule)
  | .labelled label rule =>
    return .labelled label (← liftRepetitions base rule)
  | .field name rule => return .field name (← liftRepetitions base rule)
  | .part symbol => return .part symbol
  | .nothing => return .nothing

/-- Adds the steps of a rule without choices to the steps before it, under
the marks that stand around the rule.  What follows a ranked part has the
rank from outside again, and so has the last step of the part. -/
def appendSteps (marks : Step) (isLast : Bool) (steps : Production) :
    Rule Nat → Production × Bool
  | .part symbol => (steps.push { marks with symbol }, true)
  | .both first second =>
    let (steps, isGrown) := appendSteps marks false steps first
    let (steps, isGrownMore) := appendSteps marks isLast steps second
    (steps, isGrown || isGrownMore)
  | .ranked rank side rule =>
    let inner := { marks with rank := some rank, side := side <|> marks.side }
    let (steps, isGrown) := appendSteps inner isLast steps rule
    if isGrown && !isLast then
      (steps.modify (steps.size - 1) fun step =>
        { step with
          rank := marks.rank
          side := if side.isSome then marks.side else step.side }, isGrown)
    else (steps, isGrown)
  | .labelled label rule =>
    appendSteps { marks with label := some label } isLast steps rule
  | .field name rule =>
    appendSteps { marks with field := some name } isLast steps rule
  | .nothing | .either _ _ | .repeated _ => (steps, false)

/-- The different productions of a rule. -/
def productionsOf (rule : Rule Nat) : Array Production :=
  rule.readings.foldl
    (fun known reading =>
      let steps := (appendSteps { symbol := 0 } true #[] reading).1
      if known.contains steps then known else known.push steps) #[]

/-! ## Usual labels -/

/-- How a symbol is labelled where it stands. -/
structure LabelUse where
  /-- Whether the symbol stands somewhere under its own name. -/
  isBare : Bool := false
  /-- The labels and how often they occur. -/
  labels : Array (Label × Nat) := #[]
deriving Inhabited

/-- One more place of a symbol. -/
def LabelUse.add (use : LabelUse) : Option Label → LabelUse
  | none => { use with isBare := true }
  | some label =>
    match use.labels.findIdx? (·.1 = label) with
    | some index => { use with
        labels := use.labels.modify index fun (known, count) =>
          (known, count + 1) }
    | none => { use with labels := use.labels.push (label, 1) }

/-- The label that occurs most often, for a symbol that has no place without
one. -/
def LabelUse.usual? (use : LabelUse) : Option Label :=
  if use.isBare then none
  else (use.labels.foldl
    (fun best? (label, count) =>
      match best? with
      | some (known, most) =>
        if most < count then some (label, count) else some (known, most)
      | none => some (label, count)) none).map (·.1)

/-- The usual labels of symbols, given those that stand somewhere without a
label in any case. -/
def usualLabels (size : Nat) (bare : List Nat) (phrases : Array PhraseInfo) :
    Array (Option Label) :=
  let note (uses : Array LabelUse) (symbol : Nat) (label : Option Label) :=
    uses.modify symbol (·.add label)
  let uses := bare.foldl (fun uses symbol => note uses symbol none)
    (Array.replicate size {})
  let uses := phrases.foldl
    (fun uses phrase => phrase.productions.foldl
      (fun uses production => production.foldl
        (fun uses step => note uses step.symbol step.label) uses) uses) uses
  uses.map LabelUse.usual?

/-- Whether the label of a step says nothing that is not usual.  It is kept
if another production of the phrase has the same label in the same place on a
symbol that is not usually called so. -/
def isIdleLabel (usual : Array (Option Label))
    (productions : Array Production) (production : Nat) (place : Nat)
    (step : Step) : Bool :=
  match step.label with
  | none => false
  | some label =>
    usual[step.symbol]?.join = some label &&
      !productions.zipIdx.any fun (other, index) =>
        index != production &&
          match other[place]? with
          | some same => same.label = some label &&
              usual[same.symbol]?.join ≠ some label
          | none => false

/-- Productions without the labels that are usual. -/
def dropIdleLabels (usual : Array (Option Label))
    (productions : Array Production) : Array Production :=
  productions.mapIdx fun index production =>
    production.mapIdx fun place step =>
      if isIdleLabel usual productions index place step then
        { step with label := none }
      else step

/-! ## The vocabulary -/

/-- The vocabulary of a grammar. -/
def Grammar.vocabulary (grammar : Grammar) : Vocabulary :=
  let names := grammar.names
  let finding : StateM (Array TokenUse) (List (String × Rule Found)) :=
    grammar.rules.mapM fun (name, rule) => do
      return (name, ← rule.mapParts (findMention names))
  let (found, uses) := finding.run #[]
  let settled := found.foldl
    (fun settled (name, rule) => Settled.add settled name rule)
    ({ tokens := uses } : Settled)
  let scannedBase := settled.tokens.size
  let phraseBase := scannedBase + grammar.scanned.length + 2
  let number : Found → Nat
    | .token index => index
    | .scanned index => scannedBase + index
    | .phrase index =>
      match settled.places[index]? with
      | some (.token index) => index
      | some (.phrase index) => phraseBase + index
      | _ => phraseBase
  let numberOf (name : String) : Nat :=
    number (names.getD name (.phrase 0))
  let repeatBase := phraseBase + settled.rules.size
  let lifting : StateM (Array (Rule Nat)) (Array (String × Rule Nat)) :=
    settled.rules.mapM fun (name, rule) => do
      let numbered : Rule Nat := Id.run (rule.mapParts fun part =>
        pure (number part))
      return (name, ← liftRepetitions repeatBase numbered)
  let (rules, repeated) := lifting.run #[]
  let named := rules.map fun (name, rule) =>
    ({ name, isVisible := !Vocabulary.isHiddenName name, isRepetition := false
       productions := productionsOf rule } : PhraseInfo)
  let repetitions := repeated.mapIdx fun index inner =>
    let self := Rule.part (repeatBase + index)
    ({ name := "", isVisible := false, isRepetition := true
       productions := productionsOf (.either (.both self self) inner) } :
      PhraseInfo)
  let phrases := named ++ repetitions
  let extras := grammar.extras.map numberOf
  let usual := usualLabels (phraseBase + phrases.size) (phraseBase :: extras)
    phrases
  { tokens := settled.tokens.map fun token =>
      { name := token.shown.getD "", isVisible := token.isVisible
        isNamed := token.isNamed, lexeme := token.lexeme }
    scanned := grammar.scanned.toArray
    phrases := phrases.map fun phrase =>
      { phrase with productions := dropIdleLabels usual phrase.productions }
    extras
    inlined := grammar.inlined.map numberOf
    word := numberOf grammar.wordName
    usualLabels := usual }

end CrateShelf.Source
