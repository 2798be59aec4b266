import CrateShelf.Toml.Scalar

/-!
# TOML values

A value is a text, a list or a table, or something of which only the form
matters here: a truth value, a number or a time.
-/

namespace CrateShelf.Toml

/-- Why a text cannot be read. -/
inductive Fault where
  /-- The text has not the form of a document. -/
  | malformed
  | number (error : NumberError)
  /-- Lists and tables are nested too deeply. -/
  | tooDeep
deriving DecidableEq, Repr

/-- A value. -/
inductive Value where
  | text (content : String)
  | list (items : List Value)
  | table (entries : List (String × Value))
  /-- A truth value, a number or a time. -/
  | plain
deriving Repr, Inhabited

/-- Named values, in the order in which the names were given. -/
abbrev Table := List (String × Value)

/-- The names that lead to a value. -/
abbrev Key := List String

namespace Value

/-- Whether a value has parts. -/
def hasParts : Value → Bool
  | list _ | table _ => true
  | text _ | plain => false

end Value

namespace Table

/-- The value with a name. -/
def get? (table : Table) (name : String) : Option Value :=
  table.lookup name

/-- The table with a value under a name. -/
def put (table : Table) (name : String) (value : Value) : Table :=
  match table with
  | [] => [(name, value)]
  | (known, old) :: rest =>
    if known = name then (known, value) :: rest
    else (known, old) :: put rest name value

/-- The table with a change to the table at a key, which is made if need be.
The table at a list is its last item. -/
def change (operation : Table → Option Table) :
    Key → Table → Option Table
  | [], table => operation table
  | name :: key, table =>
    match table.get? name with
    | none => do
      return table.put name (.table (← change operation key []))
    | some (.table inner) => do
      return table.put name (.table (← change operation key inner))
    | some (.list items) =>
      match items.getLast? with
      | some (.table inner) => do
        let last := Value.table (← change operation key inner)
        return table.put name (.list (items.dropLast ++ [last]))
      | _ => none
    | some _ => none

/-- The table with a value under a name that is free. -/
def fill (name : String) (value : Value) (table : Table) : Option Table :=
  match table.get? name with
  | some _ => none
  | none => some (table.put name value)

/-- The table with an empty table more in the list under a name. -/
def extend (name : String) (table : Table) : Option Table :=
  match table.get? name with
  | none => some (table.put name (.list [.table []]))
  | some (.list items) =>
    some (table.put name (.list (items ++ [.table []])))
  | some _ => none

end Table

/-! ## Reading -/

/-- Whether a character may stand in a name without quotes. -/
def isBare (char : Char) : Bool :=
  char.isAlphanum || char = '-' || char = '_'

/-- One name of a key. -/
def name (text : List Char) : Option (String × List Char) :=
  match text.takeWhile isBare with
  | [] => (lineText text).map fun read => (String.ofList read.1, read.2)
  | bare => some (String.ofList bare, text.drop bare.length)

/-- The names after the first of a key, with at most a number of them. -/
def moreNames : Nat → List Char → Option (Key × List Char)
  | 0, _ => none
  | count + 1, text =>
    match passGap text with
    | '.' :: rest => do
      let (first, rest) ← name (passGap rest)
      let (more, rest) ← moreNames count rest
      return (first :: more, rest)
    | rest => some ([], rest)

/-- A key, and the rest after the spaces behind it. -/
def key (text : List Char) : Option (Key × List Char) := do
  let (first, rest) ← name text
  let (more, rest) ← moreNames (rest.length + 1) rest
  return (first :: more, rest)

/-- The rest after a comment, which must not hold control characters. -/
def passComment (text : List Char) : Option (List Char) :=
  match text with
  | '#' :: rest =>
    let comment := rest.takeWhile (· != '\n')
    if comment.any isControl then none
    else some (rest.drop comment.length)
  | _ => some text

/-- The rest after spaces, line ends and comments, with at most a number of
comments. -/
def passLines : Nat → List Char → Option (List Char)
  | 0, _ => none
  | count + 1, text => do
    let rest := text.dropWhile fun char => isGap char || char == '\n'
    match rest with
    | '#' :: _ => passLines count (← passComment rest)
    | _ => return rest

/-- What was said about keys: which may not be declared again, and which may
not be changed, together with all below them. -/
structure Marks where
  declared : List Key := []
  frozen : List Key := []

namespace Marks

/-- Whether a key may not be declared again. -/
def isDeclared (marks : Marks) (key : Key) : Bool :=
  key ∈ marks.declared

/-- Whether a key may not be changed. -/
def isFrozen (marks : Marks) (key : Key) : Bool :=
  marks.frozen.any (·.isPrefixOf key)

/-- Marks a key as declared. -/
def declare (marks : Marks) (key : Key) : Marks :=
  { marks with declared := key :: marks.declared }

/-- Marks a key as not to be changed if its value has parts. -/
def freeze (marks : Marks) (key : Key) (value : Value) : Marks :=
  if value.hasParts then { marks with frozen := key :: marks.frozen }
  else marks

/-- Forgets a key and all below it. -/
def forget (marks : Marks) (key : Key) : Marks where
  declared := marks.declared.filter (!key.isPrefixOf ·)
  frozen := marks.frozen.filter (!key.isPrefixOf ·)

end Marks

/-- What is read from a text, or why it cannot be read. -/
abbrev Try := Except Fault

/-- What is there, or a fault of form. -/
def demand {α : Type} : Option α → Try α
  | some found => .ok found
  | none => .error .malformed

/-- A whole number in decimal has a limited number of digits. -/
def checkNumber (content rest : List Char) : Try Unit :=
  let written := content.take (content.length - rest.length)
  let digits := written.filter Char.isDigit
  let isDecimalWhole := (passSign written).all fun char =>
    char.isDigit || char == '_'
  if isDecimalWhole && NumberError.digitLimit < digits.length then
    .error (.number (.tooLong digits.length))
  else .ok ()

/-- A value that is no list and no table. -/
def simpleValue (content : List Char) : Try (Value × List Char) :=
  match content with
  | '"' :: _ | '\'' :: _ =>
    (demand (text content)).map fun read =>
      (.text (String.ofList read.1), read.2)
  | _ =>
    let word := ["true", "false"].findSome? (after? · content)
    match word, date content, time? content, number? content with
    | some rest, _, _, _ => .ok (.plain, rest)
    | none, some (isDay, rest), _, _ =>
      if isDay then .ok (.plain, rest) else .error .malformed
    | none, none, some rest, _ => .ok (.plain, rest)
    | none, none, none, some rest => do
      checkNumber content rest
      return (.plain, rest)
    | none, none, none, none =>
      (demand (["inf", "nan"].findSome? (after? · (passSign content)))).map
        fun rest => (.plain, rest)

/-- How an item or entry is read. -/
abbrev ValueReader := List Char → Try (Value × List Char)

/-- The items of a list from an item on, with at most a number of them. -/
def items (value : ValueReader) :
    Nat → List Char → Try (List Value × List Char)
  | 0, _ => .error .malformed
  | count + 1, content => do
    let (first, rest) ← value content
    match ← demand (passLines (rest.length + 1) rest) with
    | ']' :: rest => return ([first], rest)
    | ',' :: rest =>
      match ← demand (passLines (rest.length + 1) rest) with
      | ']' :: rest => return ([first], rest)
      | rest =>
        let (more, rest) ← items value count rest
        return (first :: more, rest)
    | _ => throw .malformed

/-- The entries of a table in braces from an entry on, added to those
before, with at most a number of them. -/
def entries (value : ValueReader) :
    Nat → Marks → Table → List Char → Try (Table × List Char)
  | 0, _, _, _ => .error .malformed
  | count + 1, marks, table, content => do
    let (key, rest) ← demand (key content)
    let rest ← demand (after? "=" rest)
    let (found, rest) ← value (passGap rest)
    if marks.isFrozen key then throw .malformed
    else
      let table ← demand (Table.change
        (Table.fill (key.getLastD "") found) key.dropLast table)
      match passGap rest with
      | '\x7d' :: rest => return (table, rest)
      | ',' :: rest =>
        entries value count (marks.freeze key found) table (passGap rest)
      | _ => throw .malformed

/-- A value in which lists and tables are nested at most a number of
times. -/
def value : (depth : Nat) → ValueReader
  | 0, _ => .error .tooDeep
  | depth + 1, content =>
    match content with
    | '[' :: rest => do
      let rest ← demand (passLines (rest.length + 1) rest)
      match rest with
      | ']' :: rest => return (.list [], rest)
      | _ =>
        let (items, rest) ← items (value depth) (rest.length + 1) rest
        return (.list items, rest)
    | '\x7b' :: rest =>
      match passGap rest with
      | '\x7d' :: rest => .ok (.table [], rest)
      | rest => do
        let (table, rest) ←
          entries (value depth) (rest.length + 1) {} [] rest
        return (.table table, rest)
    | _ => simpleValue content

end CrateShelf.Toml
