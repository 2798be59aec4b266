import CrateShelf.Source.Automaton.Table
import CrateShelf.Source.Lexing.Scan
import CrateShelf.Source.ParseTree

/-!
# The next token

A state of the table says which tokens to look for.  If none of them is
there, any token is looked for that can tell where the text is at fault, and
if there is none either, text is passed over up to the next token.
-/

namespace CrateShelf.Source

namespace Table

variable (table : Table)

/-- The row of a state. -/
def row (state : Nat) : Row := table.rows.getD state default

/-- What a state does with a token. -/
def actions (state token : Nat) : List Action :=
  let row := table.row state
  let found := row.actions.getD token []
  if found.isEmpty && token = table.vocabulary.ending then
    row.actions.getD table.vocabulary.extraEnding []
  else found

/-- What a state does with a tree that comes next. -/
def actionsFor (state : Nat) : Symbol → List Action
  | .known token => table.actions state token
  | .fault | .passed => []

/-- The state that comes after a token or phrase; zero if it cannot stand
there.  After an extra phrase the state is the same as before. -/
def next (state symbol : Nat) : Nat :=
  if table.vocabulary.isPhrase symbol then
    match (table.row state).gotos.getD
        (symbol - table.vocabulary.phraseBase) 0 with
    | 0 => if table.vocabulary.extras.contains symbol then state else 0
    | found => found
  else
    match (table.actions state symbol).getLast? with
    | some (.shift target _) => target
    | _ => 0

/-- A tree without parts. -/
def leaf (symbol : Symbol) (lead size : Extent) : ParseTree :=
  .node {
    symbol, lead, size
    isVisible := match symbol with
      | .known number => table.vocabulary.isVisible number
      | .fault => true
      | .passed => false
    isExtra := symbol = .known table.vocabulary.ending } []

/-- A tree with parts. -/
def tree (symbol : Symbol) (shape : Shape) (parts : List ParseTree) :
    ParseTree :=
  let isVisible := match symbol with
    | .known number => table.vocabulary.isVisible number
    | .fault => true
    | .passed => false
  .ofParts table.vocabulary.ending symbol isVisible shape parts

/-! ## Looking for tokens -/

/-- The leaf for characters from a first to a last one of a text. -/
def leafAt (symbol : Symbol) (text : List Char) (start stop : Nat) :
    ParseTree :=
  let start := min start stop
  table.leaf symbol (.ofChars (text.take start))
    (.ofChars ((text.drop start).take (stop - start)))

/-- The number of a token that needs special scanning. -/
def scannedToken (token : Scanned) : Nat :=
  table.vocabulary.tokenCount + token.index

/-- Scans for the tokens that need it.  The text has a number of characters
before it that are no part of it. -/
def scanned? (state : Nat) (hashes : Option Nat) (mayBeEmpty : Nat → Bool)
    (text : List Char) (before : Nat) : Option ParseTree :=
  let sought := (table.row state).scans
  if sought = 0 then none
  else
    match Scan.scan? (fun token => sought.testBit token.index)
        (hashes.getD 0) (text.drop before) with
    | none => none
    | some scan =>
      let token := table.scannedToken scan.token
      let isEmpty := before + scan.stop = 0 && hashes = some scan.hashes
      if isEmpty && !mayBeEmpty token then none
      else
        let leaf := table.leafAt (.known token) text (before + scan.start)
          (before + scan.stop)
        some (leaf.withInfo fun info =>
          { info with hashes := some scan.hashes })

/-- Looks for the tokens of a row. -/
def look (row : Row) (text : List Char) : Glance :=
  (table.lookouts.getD row.lookout default).look table.machine text

/-- The leaf for a token that was found; a word may be a token of its own. -/
def found (state : Nat) (text : List Char) (start stop : Nat) :
    Option Nat → ParseTree
  | none => table.leafAt (.known table.vocabulary.ending) text start stop
  | some token =>
    let plain := table.leafAt (.known token) text start stop
    if token = table.vocabulary.word then
      let word := String.ofList ((text.drop start).take (stop - start))
      match table.keywords[word]? with
      | some keyword =>
        if (table.actions state keyword).isEmpty then plain
        else
          (table.leafAt (.known keyword) text start stop).withInfo
            fun info => { info with isKeyword := true }
      | none => plain
    else plain

/-- How far text reaches in which no token begins.  The text begins at a
position; up to another one it has been passed over already. -/
def faultEnd : (length : Nat) → (text : List Char) →
    (position stop : Nat) → Nat
  | 0, _, _, stop => stop
  | length + 1, text, position, stop =>
    let glance := table.look (table.row 0) text
    if glance.found.isSome then stop
    else
      let reach := position + glance.reach
      let rest := text.drop glance.reach
      if reach = stop then
        match rest with
        | [] => stop
        | _ :: rest => faultEnd length rest (reach + 1) (reach + 1)
      else faultEnd length rest reach reach

/-- The token that a text begins with where no token of the state is
found. -/
def anyToken (state : Nat) (text : List Char) (before : Nat) : ParseTree :=
  let rest := text.drop before
  let glance := table.look (table.row 0) rest
  let start := before + glance.start
  match glance.found with
  | some (token?, stop) => table.found state text start (before + stop) token?
  | none =>
    table.leafAt .fault text start
      (table.faultEnd (2 * rest.length + 2) rest before start)

/-- The next token at a state.  At the start of a file a byte order mark is
passed over.  Tokens without characters are taken only if they may be. -/
def token (state : Nat) (hashes : Option Nat) (mayBeEmpty : Nat → Bool)
    (text : List Char) (isStart : Bool) : ParseTree :=
  let before :=
    if isStart && text.head? = some (Char.ofNat 0xfeff) then 1 else 0
  match table.scanned? state hashes mayBeEmpty text before with
  | some token => token
  | none =>
    let glance := table.look (table.row state) (text.drop before)
    match glance.found with
    | some (token?, stop) =>
      table.found state text (before + glance.start) (before + stop) token?
    | none => table.anyToken state text before

end Table

end CrateShelf.Source
