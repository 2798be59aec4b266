import CrateShelf.Source.Automaton.Item
import CrateShelf.Source.Automaton.TokenSet

/-!
# Cores

A core is a set of items that can hold at one place of a text, whatever comes
after.  An edge leads from a core over a symbol to the core that holds after
it.  For each item of the core that it leads to, an edge knows which tokens
may come after the phrase of the item: some in any case, and those that may
come after certain items of the core that it leads from.
-/

namespace CrateShelf.Source

/-- The tokens that may follow: some in any case, and those that may follow
the items with the listed places in a kernel. -/
structure Outlook where
  fixed : TokenSet := 0
  /-- The places in the kernel, as a set. -/
  passed : Nat := 0
deriving DecidableEq, Inhabited

/-- What may follow by one of two outlooks. -/
def Outlook.join (outlook other : Outlook) : Outlook :=
  ⟨outlook.fixed.join other.fixed, outlook.passed ||| other.passed⟩

/-- The way from a core over a symbol. -/
structure Edge where
  symbol : Nat
  target : Nat
  /-- The outlook of each item in the kernel of the target. -/
  outlooks : Array Outlook
deriving Inhabited

/-- A set of items, with what follows from it. -/
structure Core where
  kernel : Array Nat
  /-- The edges, first those over tokens and then those over phrases. -/
  edges : Array Edge := #[]
  /-- The tokens over which an edge leads. -/
  shifts : TokenSet := 0
  /-- The items that are read to their end, in the order of reduction. -/
  ends : Array (Nat × Outlook) := #[]
  /-- The items of the kernel that are not at their end, each as often as it
  stands for others. -/
  open_ : Array Nat := #[]
deriving Inhabited

/-- What is known of a grammar before its cores are found. -/
structure Outline where
  vocabulary : Vocabulary
  table : ItemTable
  /-- The tokens that each symbol can begin with. -/
  firsts : Array TokenSet
  /-- The tokens that each symbol can end with. -/
  lasts : Array TokenSet
  /-- For each phrase, the phrases that it can begin with, each with the
  tokens that may follow it and whether all that follow the phrase may. -/
  leading : Array (List (Nat × TokenSet × Bool))
  /-- All symbols in the order in which edges are listed. -/
  order : Array Nat
deriving Inhabited

namespace Outline

/-- The tokens that a symbol can begin with. -/
def firstsOf (outline : Outline) (symbol : Nat) : TokenSet :=
  outline.firsts.getD symbol 0

/-- The tokens that a symbol can end with. -/
def lastsOf (outline : Outline) (symbol : Nat) : TokenSet :=
  outline.lasts.getD symbol 0

end Outline

/-! ## First and last tokens -/

/-- One round of collecting the tokens at one end of each phrase. -/
def spreadRound (vocabulary : Vocabulary)
    (pick : Production → Option Step) (sets : Array TokenSet) :
    Array TokenSet :=
  vocabulary.phrases.zipIdx.foldl
    (fun sets (info, phrase) =>
      let symbol := vocabulary.phrase phrase
      let set := info.productions.foldl
        (fun set production =>
          match pick production with
          | some step => set.join (sets.getD step.symbol 0)
          | none => set) (sets.getD symbol 0)
      sets.set! symbol set) sets

/-- Rounds of collecting, until nothing changes. -/
def spread (vocabulary : Vocabulary) (pick : Production → Option Step) :
    Nat → Array TokenSet → Array TokenSet
  | 0, sets => sets
  | rounds + 1, sets =>
    let next := spreadRound vocabulary pick sets
    if next = sets then sets else spread vocabulary pick rounds next

/-- The tokens at one end of each symbol. -/
def tokensAt (vocabulary : Vocabulary) (pick : Production → Option Step) :
    Array TokenSet :=
  let tokens := (Array.range vocabulary.phraseBase).map TokenSet.single
  spread vocabulary pick (vocabulary.phrases.size + 1)
    (tokens ++ Array.replicate vocabulary.phrases.size 0)

/-! ## Leading phrases -/

/-- The phrases that a phrase begins with at once, with the tokens that may
follow; no tokens are given where all that follows the phrase may. -/
def directLeading (vocabulary : Vocabulary) (firsts : Array TokenSet)
    (info : PhraseInfo) : List (Nat × Option TokenSet) :=
  (info.productions.toList.filterMap fun production =>
    match production[0]? with
    | some step =>
      if vocabulary.isPhrase step.symbol then
        some (step.symbol - vocabulary.phraseBase,
          production[1]?.map fun next => firsts.getD next.symbol 0)
      else none
    | none => none).eraseDups

/-- Follows phrases from those that are still to be looked at; the number
bounds the steps. -/
def followLeading (direct : Array (List (Nat × Option TokenSet))) :
    Nat → List (Nat × TokenSet × Bool) →
    Array (Option (TokenSet × Bool)) → Array (Option (TokenSet × Bool))
  | 0, _, known => known
  | _, [], known => known
  | fuel + 1, (phrase, set, isPassed) :: rest, known =>
    let before := (known[phrase]?).join
    let merged := match before with
      | none => (set, isPassed)
      | some (old, wasPassed) => (old.join set, wasPassed || isPassed)
    if before = some merged then followLeading direct fuel rest known
    else
      let next := (direct.getD phrase []).map fun (inner, tokens?) =>
        match tokens? with
        | some tokens => (inner, tokens, false)
        | none => (inner, set, isPassed)
      followLeading direct fuel (next ++ rest)
        (known.set! phrase (some merged))

/-- The phrases that each phrase can begin with. -/
def leadingPhrases (vocabulary : Vocabulary) (firsts : Array TokenSet) :
    Array (List (Nat × TokenSet × Bool)) :=
  let direct := vocabulary.phrases.map (directLeading vocabulary firsts)
  (Array.range vocabulary.phrases.size).map fun phrase =>
    let known := followLeading direct 1000000 [(phrase, 0, true)]
      (Array.replicate vocabulary.phrases.size none)
    known.toList.zipIdx.filterMap fun (entry, index) =>
      entry.map fun (set, isPassed) => (index, set, isPassed)

/-- The outline of a vocabulary. -/
def Vocabulary.outline (vocabulary : Vocabulary) : Outline :=
  let firsts := tokensAt vocabulary (·[0]?)
  let scanned := (List.range vocabulary.scanned.size).map
    (vocabulary.tokenCount + ·)
  let phrases := (List.range vocabulary.phrases.size).map vocabulary.phrase
  { vocabulary
    table := vocabulary.itemTable
    firsts
    lasts := tokensAt vocabulary Array.back?
    leading := leadingPhrases vocabulary firsts
    order := (scanned ++ [vocabulary.ending, vocabulary.extraEnding] ++
      List.range vocabulary.tokenCount ++ phrases).toArray }

/-! ## The order of reductions -/

/-- How labels and fields are compared. -/
def shapeText (shape : Shape) : List String :=
  shape.toList.flatMap fun (label, field) =>
    [(label.map fun label => label.name ++ if label.isPhrase then "1" else "0"
        ).getD "", field.getD ""]

/-- How the side of a step is compared. -/
def sideOrder : Option Side → Nat
  | none => 0
  | some .left => 1
  | some .right => 2

/-- Whether an item at its end is reduced before another. -/
def reducesBefore (table : ItemTable) (item other : Item) : Bool :=
  let least := -1000000000
  if item.place != other.place then item.place < other.place
  else if item.phrase != other.phrase then item.phrase < other.phrase
  else if item.rank != other.rank then
    item.rank.getD least < other.rank.getD least
  else if item.side != other.side then
    sideOrder item.side < sideOrder other.side
  else
    decide (shapeText (table.shapes.getD item.shape #[]) <
      shapeText (table.shapes.getD other.shape #[]))

/-- Puts an item at its end in its place among others. -/
def insertEnd (table : ItemTable) (entry : Nat × Outlook) :
    List (Nat × Outlook) → List (Nat × Outlook)
  | [] => [entry]
  | first :: rest =>
    if first.1 = entry.1 then (entry.1, first.2.join entry.2) :: rest
    else if reducesBefore table (table.item entry.1) (table.item first.1) then
      entry :: first :: rest
    else first :: insertEnd table entry rest

/-! ## Edges -/

/-- Puts an item of a kernel in its place, by its number. -/
def insertKernel (index : Nat) (outlook : Outlook) :
    List (Nat × Outlook) → List (Nat × Outlook)
  | [] => [(index, outlook)]
  | first :: rest =>
    if index < first.1 then (index, outlook) :: first :: rest
    else if index = first.1 then (index, first.2.join outlook) :: rest
    else first :: insertKernel index outlook rest

/-- What follows from a kernel: the kernels after each symbol and the items
at their end. -/
structure Closure where
  after : Array (List (Nat × Outlook))
  ends : List (Nat × Outlook) := []

/-- Adds an item with its outlook. -/
def Closure.add (table : ItemTable) (closure : Closure)
    (index : Nat) (outlook : Outlook) : Closure :=
  let item := table.item index
  match item.next with
  | some symbol => { closure with
      after := closure.after.modify symbol
        (insertKernel item.successor outlook) }
  | none => { closure with
      ends := insertEnd table (index, outlook) closure.ends }

/-- The outlooks of the phrases that can begin at the place of an item. -/
def noteLeading (outline : Outline) (item : Item) (outlook : Outlook)
    (needed : Array (Option Outlook)) : Array (Option Outlook) :=
  match item.next with
  | some symbol =>
    if outline.vocabulary.isPhrase symbol then
      let beyond : Outlook := match item.follow with
        | some next => ⟨outline.firstsOf next, 0⟩
        | none => outlook
      (outline.leading.getD (symbol - outline.vocabulary.phraseBase)
          []).foldl
        (fun needed (phrase, set, isPassed) =>
          let here : Outlook := ⟨set, 0⟩
          let found := if isPassed then here.join beyond else here
          needed.modify phrase fun
            | some known => some (known.join found)
            | none => some found) needed
    else needed
  | none => needed

/-- The items that a kernel item stands for. -/
def unfolded (table : ItemTable) (index : Nat) : List Nat :=
  match (table.item index).stands with
  | [] => [index]
  | stands => stands

/-- Everything that follows from a kernel. -/
def closure (outline : Outline) (kernel : Array Nat) : Closure :=
  let table := outline.table
  let items := kernel.toList.zipIdx.flatMap fun (index, place) =>
    (unfolded table index).map fun other =>
      (other, (⟨0, 1 <<< place⟩ : Outlook))
  let needed := items.foldl
    (fun needed (index, outlook) =>
      noteLeading outline (table.item index) outlook needed)
    (Array.replicate outline.vocabulary.phrases.size none)
  let start : Closure :=
    { after := Array.replicate outline.vocabulary.size [] }
  let own := items.foldl
    (fun closure (index, outlook) => closure.add table index outlook) start
  needed.zipIdx.foldl
    (fun closure (outlook?, phrase) =>
      match outlook? with
      | some outlook => (table.starts.getD phrase []).foldl
          (fun closure index => closure.add table index outlook) closure
      | none => closure) own

/-! ## All cores -/

/-- The cores found so far. -/
structure CoreDraft where
  cores : Array Core := #[]
  numbers : Std.HashMap (Array Nat) Nat := {}
deriving Inhabited

/-- The number of a kernel, which is new or known. -/
def CoreDraft.place (draft : CoreDraft) (kernel : Array Nat) :
    CoreDraft × Nat :=
  match draft.numbers[kernel]? with
  | some number => (draft, number)
  | none =>
    let number := draft.cores.size
    ({ cores := draft.cores.push { kernel }
       numbers := draft.numbers.insert kernel number }, number)

/-- Finds the edges of a core. -/
def CoreDraft.expand (outline : Outline) (draft : CoreDraft)
    (number : Nat) : CoreDraft :=
  let core := draft.cores.getD number default
  let found := closure outline core.kernel
  let (draft, edges) := outline.order.foldl
    (fun (draft, edges) symbol =>
      match found.after.getD symbol [] with
      | [] => (draft, edges)
      | entries =>
        let entries := entries.toArray
        let (draft, target) := CoreDraft.place draft (entries.map (·.1))
        (draft, edges.push
          { symbol, target, outlooks := entries.map (·.2) }))
    (draft, (#[] : Array Edge))
  let shifts := edges.foldl
    (fun set edge =>
      if outline.vocabulary.isPhrase edge.symbol then set
      else set.join (.single edge.symbol)) 0
  let isOpen (index : Nat) : Bool :=
    (outline.table.item index).next.isSome
  { draft with
    cores := draft.cores.set! number {
      core with
      edges, shifts
      ends := found.ends.toArray
      open_ := (core.kernel.toList.flatMap (unfolded outline.table)
        |>.filter isOpen).toArray } }

/-- Finds the edges of all cores from a number on; `fuel` bounds how many
there are. -/
def CoreDraft.expandFrom (outline : Outline) :
    (fuel : Nat) → (number : Nat) → CoreDraft → CoreDraft
  | 0, _, draft => draft
  | fuel + 1, number, draft =>
    if number < draft.cores.size then
      expandFrom outline fuel (number + 1) (draft.expand outline number)
    else draft

/-- The kernels that the reading begins with: none, the one for the whole
text, and those after the first token of an extra phrase. -/
def Outline.startKernels (outline : Outline) :
    List (Option Nat × Array Nat) :=
  let vocabulary := outline.vocabulary
  let firsts := vocabulary.extras.flatMap fun extra =>
    let phrase := extra - vocabulary.phraseBase
    let info := vocabulary.phrases.getD phrase default
    info.productions.toList.filterMap fun production =>
      match production[0]?, outline.table.places[(phrase, production)]? with
      | some step, some numbers =>
        numbers[1]?.map fun index => (step.symbol, index)
      | _, _ => none
  let tokens := ((List.range vocabulary.ending).filter fun token =>
    firsts.any (·.1 = token))
  let extras := tokens.map fun token =>
    let indices := (firsts.filter (·.1 = token)).map (·.2)
    let kernel := indices.foldl
      (fun kernel index => insertKernel index {} kernel) []
    (some token, (kernel.map (·.1)).toArray)
  (none, #[]) :: (none, #[outline.table.whole]) :: extras

/-- The cores of a grammar. -/
def Outline.cores (outline : Outline) : Array Core :=
  let draft := outline.startKernels.foldl
    (fun draft (_, kernel) => (CoreDraft.place draft kernel).1)
    ({} : CoreDraft)
  (draft.expandFrom outline 100000 0).cores

end CrateShelf.Source
