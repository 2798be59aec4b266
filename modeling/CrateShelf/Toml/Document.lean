import CrateShelf.Depths
import CrateShelf.Text.Lines
import CrateShelf.Toml.Value

/-!
# TOML documents

A document is a list of lines: values under keys, and the headers of the
tables that the keys after them belong to.  A table may be declared once, and
a value cannot be changed.
-/

namespace CrateShelf.Toml

variable [Depths]

/-- What the lines read so far amount to. -/
structure Draft where
  table : Table := []
  marks : Marks := {}
  /-- The keys that count as declared from the next header on. -/
  pending : List Key := []
  /-- The table that keys belong to. -/
  header : Key := []

namespace Draft

/-- The draft at a header: the keys before it count as declared. -/
def settle (draft : Draft) : Draft :=
  { draft with
    marks := draft.pending.foldl Marks.declare draft.marks
    pending := [] }

/-- Declares a table. -/
def declareTable (draft : Draft) (key : Key) : Option Draft := do
  if draft.marks.isDeclared key || draft.marks.isFrozen key then none
  else return { draft with
    marks := draft.marks.declare key
    table := ← Table.change some key draft.table
    header := key }

/-- Adds a table to a list. -/
def addToList (draft : Draft) (key : Key) : Option Draft := do
  if draft.marks.isFrozen key then none
  else return { draft with
    marks := (draft.marks.forget key).declare key
    table := ← Table.change (Table.extend (key.getLastD "")) key.dropLast
      draft.table
    header := key }

/-- The keys of the tables that a key goes through, below a header. -/
def through (header key : Key) : List Key :=
  (List.range (key.length - 1)).map fun count =>
    header ++ key.take (count + 1)

/-- Gives a value to a key. -/
def give (draft : Draft) (key : Key) (value : Value) : Option Draft := do
  let parents := through draft.header key
  let owner := draft.header ++ key.dropLast
  if parents.any draft.marks.isDeclared || draft.marks.isFrozen owner then
    none
  else return { draft with
    pending := draft.pending ++ parents
    marks := draft.marks.freeze (draft.header ++ key) value
    table := ← Table.change (Table.fill (key.getLastD "") value) owner
      draft.table }

/-- Reads a header; its bracket is first. -/
def readHeader (draft : Draft) (text : List Char) :
    Try (Draft × List Char) := demand do
  let draft := draft.settle
  match after? "[[" text with
  | some rest =>
    let (key, rest) ← key (passGap rest)
    return (← draft.addToList key, ← after? "]]" rest)
  | none =>
    let (key, rest) ← key (passGap (text.drop 1))
    return (← draft.declareTable key, ← after? "]" rest)

/-- Reads a key and its value. -/
def readEntry (draft : Draft) (text : List Char) :
    Try (Draft × List Char) := do
  let (key, rest) ← demand (key text)
  let rest := passGap (← demand (after? "=" rest))
  let (value, rest) ← value Depths.manifest rest
  return (← demand (draft.give key value), rest)

/-- Reads what stands on a line, if anything does. -/
def readLine (draft : Draft) (text : List Char) : Try (Draft × List Char) :=
  match text with
  | '[' :: _ => draft.readHeader text
  | '#' :: _ | '\n' :: _ | [] => .ok (draft, text)
  | _ => draft.readEntry text

/-- Reads lines, with at most a number of them. -/
def readLines : Nat → Draft → List Char → Try Draft
  | 0, _, _ => .error .malformed
  | count + 1, draft, text => do
    let (draft, rest) ← draft.readLine (passGap text)
    match ← demand (passComment (passGap rest)) with
    | [] => return draft
    | '\n' :: rest => readLines count draft rest
    | _ => throw .malformed

end Draft

/-- A text with a line feed for each return and line feed. -/
def unifyPairs : List Char → List Char
  | '\r' :: '\n' :: rest => '\n' :: unifyPairs rest
  | char :: rest => char :: unifyPairs rest
  | [] => []

/-- The table that a document stands for. -/
def document (text : String) : Try Table := do
  let text := unifyPairs text.toList
  let draft ← Draft.readLines (text.length + 1) {} text
  return draft.table

end CrateShelf.Toml
