import CrateShelf.Source.Vocabulary

/-!
# Items

An item is a production with a place in it: what stands before the place has
been read, what stands after it is expected.  Items that agree on everything
that matters from their place on are one item, whatever was read before.
-/

namespace CrateShelf.Source

/-- What decides about an item. -/
structure ItemKey where
  phrase : Nat
  place : Nat
  length : Nat
  /-- The rank and side of the step before the place. -/
  rank : Option Int
  side : Option Side
  /-- The number of the labels and fields of the steps before the place. -/
  before : Nat
  /-- The number of the steps after the place. -/
  after : Nat
deriving DecidableEq, Hashable

/-- How the steps of a production are labelled. -/
abbrev Shape := Array (Option Label × Option String)

/-- A production with a place in it. -/
structure Item where
  /-- The index of the phrase; the item for the whole text has an index of
  its own. -/
  phrase : Nat
  place : Nat
  /-- The symbol after the place, and the symbol after that. -/
  next : Option Nat
  follow : Option Nat
  rank : Option Int
  side : Option Side
  /-- The item with one more step read. -/
  successor : Nat
  /-- The items that stand for this one, if its next symbol is one that is
  put where it is named. -/
  stands : List Nat
  /-- The number of the shape of the production. -/
  shape : Nat
deriving Inhabited

/-- The items of a vocabulary. -/
structure ItemTable where
  items : Array Item
  /-- The items at the start of each phrase. -/
  starts : Array (List Nat)
  /-- The item for the whole text, before it is read. -/
  whole : Nat
  shapes : Array Shape
  /-- Where the items of a phrase and a production begin. -/
  places : Std.HashMap (Nat × Production) (Array Nat)
deriving Inhabited

namespace ItemTable

/-- The item with a number. -/
def item (table : ItemTable) (index : Nat) : Item :=
  table.items.getD index default

end ItemTable

/-! ## Symbols that are put where they are named -/

/-- A production with the step at a place replaced by the steps of another
production, which take over the label and field of the step. -/
def substitute (production : Production) (place : Nat) (step : Step)
    (inner : Production) : Production :=
  let inner := inner.map fun part =>
    { part with
      label := step.label <|> part.label
      field := step.field <|> part.field }
  let inner := inner.modify (inner.size - 1) fun part =>
    { part with rank := part.rank <|> step.rank
                side := part.side <|> step.side }
  production.extract 0 place ++ inner ++
    production.extract (place + 1) production.size

/-- The productions that stand for a production whose step at a place is put
where it is named; the number bounds how often one step stands for another. -/
def standingFor (vocabulary : Vocabulary) (place : Nat) :
    Nat → Production → List Production
  | 0, production => [production]
  | depth + 1, production =>
    match production[place]? with
    | some step =>
      if step.symbol ∈ vocabulary.inlined then
        let info := vocabulary.phrases.getD
          (step.symbol - vocabulary.phraseBase) default
        info.productions.toList.flatMap fun inner =>
          standingFor vocabulary place depth
            (substitute production place step inner)
      else [production]
    | none => [production]

/-- Whether the step at a place is put where it is named. -/
def isInlinedAt (vocabulary : Vocabulary) (production : Production)
    (place : Nat) : Bool :=
  match production[place]? with
  | some step => decide (step.symbol ∈ vocabulary.inlined)
  | none => false

/-! ## Numbering the items -/

/-- The items found so far. -/
structure ItemDraft where
  items : Array Item := #[]
  numbers : Std.HashMap ItemKey Nat := {}
  /-- The numbers of lists of labels and fields, by their last entry. -/
  befores : Std.HashMap (Nat × Option Label × Option String) Nat := {}
  /-- The numbers of lists of steps, by their first entry. -/
  afters : Std.HashMap (Step × Nat) Nat := {}
  shapes : Array Shape := #[]
  shapeNumbers : Std.HashMap (List (Option Label × Option String)) Nat := {}
  places : Std.HashMap (Nat × Production) (Array Nat) := {}
deriving Inhabited

namespace ItemDraft

/-- The numbers of the rests of a production, from the last place on. -/
def addAfters (draft : ItemDraft) (production : Production) :
    ItemDraft × List Nat :=
  production.toList.foldr
    (fun step (draft, numbers) =>
      let key := (step, numbers.headD 0)
      match draft.afters[key]? with
      | some number => (draft, number :: numbers)
      | none =>
        let number := draft.afters.size + 1
        ({ draft with afters := draft.afters.insert key number },
          number :: numbers))
    (draft, [0])

/-- The numbers of the labels and fields up to each place. -/
def addBefores (draft : ItemDraft) (production : Production) :
    ItemDraft × List Nat :=
  let (draft, numbers) := production.foldl
    (fun (draft, numbers) step =>
      let key := (numbers.headD 0, step.label, step.field)
      match draft.befores[key]? with
      | some number => (draft, number :: numbers)
      | none =>
        let number := draft.befores.size + 1
        ({ draft with befores := draft.befores.insert key number },
          number :: numbers))
    (draft, [0])
  (draft, numbers.reverse)

/-- The number of the shape of a production. -/
def addShape (draft : ItemDraft) (production : Production) :
    ItemDraft × Nat :=
  let shape := production.map fun step => (step.label, step.field)
  match draft.shapeNumbers[shape.toList]? with
  | some number => (draft, number)
  | none =>
    let number := draft.shapes.size
    ({ draft with
      shapes := draft.shapes.push shape
      shapeNumbers := draft.shapeNumbers.insert shape.toList number }, number)

/-- Adds the item of a production at a place. -/
def addItem (draft : ItemDraft) (phrase : Nat) (production : Production)
    (shape : Nat) (place before after : Nat) : ItemDraft × Nat :=
  let last : Option Step := if place = 0 then none else production[place - 1]?
  let rank := last.bind (·.rank)
  let side := last.bind (·.side)
  let key : ItemKey :=
    { phrase, place, length := production.size, rank, side, before, after }
  match draft.numbers[key]? with
  | some number => (draft, number)
  | none =>
    let number := draft.items.size
    let item : Item := {
      phrase, place
      next := production[place]?.map (·.symbol)
      follow := production[place + 1]?.map (·.symbol)
      rank, side
      successor := number
      stands := []
      shape }
    ({ draft with
      items := draft.items.push item
      numbers := draft.numbers.insert key number }, number)

/-- Ties the items of a production to their successors. -/
def link (draft : ItemDraft) : List Nat → ItemDraft
  | first :: second :: rest =>
    link { draft with
      items := draft.items.modify first fun item =>
        { item with successor := second } } (second :: rest)
  | _ => draft

/-- Adds the items of a production of a phrase. -/
def addProduction (draft : ItemDraft) (phrase : Nat)
    (production : Production) : ItemDraft × Array Nat :=
  match draft.places[(phrase, production)]? with
  | some numbers => (draft, numbers)
  | none =>
    let (draft, afters) := draft.addAfters production
    let (draft, befores) := draft.addBefores production
    let (draft, shape) := draft.addShape production
    let (draft, numbers) := (befores.zip afters).zipIdx.foldl
      (fun (draft, numbers) ((before, after), place) =>
        let (draft, number) :=
          draft.addItem phrase production shape place before after
        (draft, numbers.push number))
      (draft, (#[] : Array Nat))
    let draft := draft.link numbers.toList
    ({ draft with
      places := draft.places.insert (phrase, production) numbers }, numbers)

/-- Adds the items of a production and of all productions that stand for it;
the number bounds how often one stands for another. -/
def addStanding (vocabulary : Vocabulary) (phrase : Nat) :
    Nat → ItemDraft → Production → ItemDraft
  | 0, draft, production => (draft.addProduction phrase production).1
  | depth + 1, draft, production =>
    if draft.places.contains (phrase, production) then draft
    else
      let (draft, numbers) := draft.addProduction phrase production
      (List.range production.size).foldl
        (fun draft place =>
          if isInlinedAt vocabulary production place then
            let others := standingFor vocabulary place 8 production
            let draft := others.foldl
              (addStanding vocabulary phrase depth) draft
            let stands := others.filterMap fun other =>
              (draft.places[(phrase, other)]?).bind (·[place]?)
            { draft with
              items := draft.items.modify (numbers.getD place 0) fun item =>
                { item with stands } }
          else draft) draft

end ItemDraft

/-- The items of a vocabulary. -/
def Vocabulary.itemTable (vocabulary : Vocabulary) : ItemTable :=
  let draft := vocabulary.phrases.zipIdx.foldl
    (fun draft (info, phrase) =>
      info.productions.foldl
        (ItemDraft.addStanding vocabulary phrase 16) draft)
    ({} : ItemDraft)
  let wholeProduction : Production := #[{ symbol := vocabulary.phraseBase }]
  let (draft, whole) :=
    draft.addProduction vocabulary.phrases.size wholeProduction
  let starts := vocabulary.phrases.mapIdx fun phrase info =>
    if vocabulary.phrase phrase ∈ vocabulary.inlined then []
    else info.productions.toList.flatMap fun production =>
      if production.isEmpty && phrase != 0 then []
      else
        (standingFor vocabulary 0 8 production).filterMap fun other =>
          (draft.places[(phrase, other)]?).bind (·[0]?)
  { items := draft.items
    starts := starts.map List.eraseDups
    whole := whole.getD 0 0
    shapes := draft.shapes
    places := draft.places }

end CrateShelf.Source
