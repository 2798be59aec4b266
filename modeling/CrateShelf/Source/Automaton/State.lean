import CrateShelf.Source.Automaton.Core

/-!
# States

A state is a core together with the tokens that may come after each item of
its kernel.  States with one core differ in when they reduce.  What a state
does with a token is decided by ranks where the token can be both read and
the reason for a reduction; what ranks leave open stays open.
-/

namespace CrateShelf.Source

/-! ## Numbered sets of tokens -/

/-- Sets of tokens that have been met, with numbers; the empty set has the
number zero. -/
structure SetTable where
  sets : Array TokenSet := #[0]
  numbers : Std.HashMap TokenSet Nat := Std.HashMap.ofList [(0, 0)]
  unions : Std.HashMap (Nat × Nat) Nat := {}
deriving Inhabited

namespace SetTable

/-- The set with a number. -/
def set (table : SetTable) (number : Nat) : TokenSet :=
  table.sets.getD number 0

/-- The number of a set. -/
def place (table : SetTable) (set : TokenSet) : SetTable × Nat :=
  match table.numbers[set]? with
  | some number => (table, number)
  | none =>
    let number := table.sets.size
    ({ table with
      sets := table.sets.push set
      numbers := table.numbers.insert set number }, number)

/-- The number of the union of two sets. -/
def union (table : SetTable) (first second : Nat) : SetTable × Nat :=
  if first = second || second = 0 then (table, first)
  else if first = 0 then (table, second)
  else
    match table.unions[(first, second)]? with
    | some number => (table, number)
    | none =>
      let (table, number) :=
        table.place ((table.set first).join (table.set second))
      ({ table with
        unions := table.unions.insert (first, second) number }, number)

end SetTable

/-- An outlook with its sets numbered. -/
structure SetSource where
  fixed : Nat
  /-- The places of the kernel whose tokens are passed on. -/
  passed : List Nat
deriving Inhabited

/-- The sources of the sets of a core: for each edge those of the items that
it leads to, and those of the items at their end. -/
structure CoreSources where
  edges : Array (Array SetSource)
  ends : Array SetSource
deriving Inhabited

/-- Numbers the sets of an outlook. -/
def numberOutlook (size : Nat) (table : SetTable) (outlook : Outlook) :
    SetTable × SetSource :=
  let (table, fixed) := table.place outlook.fixed
  (table, ⟨fixed, TokenSet.members size outlook.passed⟩)

/-- Numbers the sets of several outlooks. -/
def numberOutlooks (size : Nat) (table : SetTable)
    (outlooks : Array Outlook) : SetTable × Array SetSource :=
  outlooks.foldl
    (fun (table, sources) outlook =>
      let (table, source) := numberOutlook size table outlook
      (table, sources.push source)) (table, #[])

/-- Numbers the sets of a core. -/
def numberCore (table : SetTable) (core : Core) : SetTable × CoreSources :=
  let size := core.kernel.size
  let (table, edges) := core.edges.foldl
    (fun (table, edges) edge =>
      let (table, sources) := numberOutlooks size table edge.outlooks
      (table, edges.push sources)) (table, (#[] : Array (Array SetSource)))
  let (table, ends) := numberOutlooks size table (core.ends.map (·.2))
  (table, ⟨edges, ends⟩)

/-- The set that a source gives, for the sets of the items of a kernel. -/
def SetSource.resolve (source : SetSource) (table : SetTable)
    (sets : Array Nat) : SetTable × Nat :=
  source.passed.foldl
    (fun (table, number) place => table.union number (sets.getD place 0))
    (table, source.fixed)

/-- The sets that sources give. -/
def resolveAll (table : SetTable) (sets : Array Nat)
    (sources : Array SetSource) : SetTable × Array Nat :=
  sources.foldl
    (fun (table, found) source =>
      let (table, number) := source.resolve table sets
      (table, found.push number)) (table, Array.mkEmpty sources.size)

/-! ## All states -/

/-- A core with the numbers of the sets of tokens after its items. -/
structure State where
  core : Nat
  sets : Array Nat
  /-- The states that the edges of the core lead to. -/
  targets : Array Nat := #[]
  /-- The sets for which the items at their end are reduced. -/
  ends : Array Nat := #[]
deriving Inhabited

/-- The states found so far. -/
structure StateDraft where
  table : SetTable
  states : Array State := #[]
  numbers : Std.HashMap (Array Nat) Nat := {}
deriving Inhabited

/-- The number of a state, which is new or known. -/
def StateDraft.place (draft : StateDraft) (core : Nat) (sets : Array Nat) :
    StateDraft × Nat :=
  let key := sets.push core
  match draft.numbers[key]? with
  | some number => (draft, number)
  | none =>
    let number := draft.states.size
    ({ draft with
      states := draft.states.push { core, sets }
      numbers := draft.numbers.insert key number }, number)

/-- Places the target of one edge. -/
def StateDraft.placeTarget (draft : StateDraft) (sets : Array Nat)
    (target : Nat) (sources : Array SetSource) : StateDraft × Nat :=
  let (table, found) := resolveAll draft.table sets sources
  StateDraft.place { draft with table } target found

/-- Finds what the edges of a state lead to and when it reduces. -/
def StateDraft.expand (cores : Array Core) (sources : Array CoreSources)
    (draft : StateDraft) (number : Nat) : StateDraft :=
  let state := draft.states.getD number default
  let core := cores.getD state.core default
  let source := sources.getD state.core default
  let (draft, targets) := core.edges.size.fold
    (fun edge _ (draft, targets) =>
      let target := (core.edges.getD edge default).target
      let (draft, found) := StateDraft.placeTarget draft state.sets target
        (source.edges.getD edge #[])
      (draft, targets.push found))
    (draft, (Array.mkEmpty core.edges.size : Array Nat))
  let (table, ends) := resolveAll draft.table state.sets source.ends
  { draft with
    table
    states := draft.states.set! number { state with targets, ends } }

/-- Finds the states from a number on; `fuel` bounds how many there are. -/
def StateDraft.expandFrom (cores : Array Core)
    (sources : Array CoreSources) :
    (fuel : Nat) → (number : Nat) → StateDraft → StateDraft
  | 0, _, draft => draft
  | fuel + 1, number, draft =>
    if number < draft.states.size then
      expandFrom cores sources fuel (number + 1)
        (draft.expand cores sources number)
    else draft

/-- The states of a grammar, and the states after the first token of each
extra phrase. -/
structure StateSpace where
  outline : Outline
  cores : Array Core
  table : SetTable
  states : Array State
  extraStarts : List (Nat × Nat)
deriving Inhabited

/-- The states of a grammar. -/
def Outline.stateSpace (outline : Outline) : StateSpace :=
  let cores := outline.cores
  let (table, sources) := cores.foldl
    (fun (table, sources) core =>
      let (table, source) := numberCore table core
      (table, sources.push source))
    (({} : SetTable), (#[] : Array CoreSources))
  let (table, atEnd) := table.place (.single outline.vocabulary.ending)
  let (table, atExtraEnd) :=
    table.place (.single outline.vocabulary.extraEnding)
  let (draft, extraStarts) := outline.startKernels.zipIdx.foldl
    (fun (draft, starts) ((token?, kernel), core) =>
      let set := if token?.isSome then atExtraEnd else atEnd
      let (draft, number) := StateDraft.place draft core
        (kernel.map fun _ => set)
      match token? with
      | some token => (draft, starts ++ [(token, number)])
      | none => (draft, starts))
    (({ table } : StateDraft), ([] : List (Nat × Nat)))
  let draft := draft.expandFrom cores sources 1000000 0
  { outline, cores, table := draft.table, states := draft.states
    extraStarts }

/-! ## What a state does with a token -/

/-- The end of an item. -/
inductive Completion where
  /-- The whole text has been read. -/
  | accept
  /-- So many parts are a phrase. -/
  | reduce (phrase count shape : Nat)
deriving DecidableEq, Hashable, Repr, Inhabited

/-- What a core does with a token, if certain of its items can end there. -/
structure Verdict where
  completions : List Completion := []
  /-- Whether the token is read. -/
  isShifted : Bool := false
  /-- Whether reading the token only makes a repetition group otherwise. -/
  isRepeating : Bool := false
deriving DecidableEq, Inhabited

/-- What an item does at its end. -/
def completionOf (outline : Outline) (index : Nat) : Completion :=
  let item := outline.table.item index
  if item.phrase = outline.vocabulary.phrases.size then .accept
  else .reduce (outline.vocabulary.phrase item.phrase) item.place item.shape

/-- The completions that are not outranked, as they are gathered. -/
structure Contest where
  completions : List Completion := []
  rank : Option Int := none
  groupsLeft : Bool := false
  groupsRight : Bool := false
  /-- Whether an item says nothing on how it groups. -/
  groupsFreely : Bool := false

/-- One more item that can end. -/
def Contest.add (outline : Outline) (contest : Contest) (index : Nat) :
    Contest :=
  let item := outline.table.item index
  let completion := completionOf outline index
  let own := item.rank.getD 0
  let best := contest.rank.getD 0
  if !contest.completions.isEmpty && own < best then contest
  else
    let kept : Contest :=
      if !contest.completions.isEmpty && best < own then {} else contest
    { completions := kept.completions ++ [completion]
      rank := item.rank
      groupsLeft := kept.groupsLeft || item.side = some .left
      groupsRight := kept.groupsRight || item.side = some .right
      groupsFreely := kept.groupsFreely || item.side.isNone }

/-- The items at their end that a set of places names. -/
def endsIn (core : Core) (places : Nat) : List Nat :=
  (core.ends.toList.zipIdx.filter fun (_, place) =>
    TokenSet.has places place).map (·.1.1)

/-- What a core does with a token, where the items at the given places can
end. -/
def judge (outline : Outline) (core : Core) (token places : Nat) :
    Verdict :=
  let ends := endsIn core places
  let contest := ends.foldl (Contest.add outline) {}
  let isRead := core.shifts.has token
  if contest.completions.isEmpty || !isRead then
    { completions := contest.completions, isShifted := isRead }
  else
    let whole := outline.vocabulary.phrases.size
    let reading := core.open_.toList.filterMap fun index =>
      let item := outline.table.item index
      match item.next with
      | some symbol =>
        if item.place != 0 && (outline.firstsOf symbol).has token then
          some item
        else none
      | none => none
    let involved := (reading ++ ends.map outline.table.item).filter
      (·.phrase != whole)
    let isRepeated := match involved with
      | [] => false
      | first :: rest =>
        (outline.vocabulary.phrases.getD first.phrase default).isRepetition &&
          rest.all (·.phrase = first.phrase)
    let best := contest.rank.getD 0
    let isHigher := reading.any fun item => best < item.rank.getD 0
    let isLower := reading.any fun item => item.rank.getD 0 < best
    let both : Verdict :=
      { completions := contest.completions, isShifted := true }
    let onlyShift : Verdict := { isShifted := true }
    let onlyReduce : Verdict := { completions := contest.completions }
    if isRepeated then { both with isRepeating := true }
    else if isHigher && !isLower then onlyShift
    else if isLower && !isHigher then onlyReduce
    else if isLower || isHigher then both
    else if contest.groupsFreely then both
    else if contest.groupsLeft && !contest.groupsRight then onlyReduce
    else if contest.groupsRight && !contest.groupsLeft then onlyShift
    else both

end CrateShelf.Source
