import CrateShelf.Yaml.Cursor
import CrateShelf.Yaml.Fault

/-!
# Texts in YAML

The ways to write a text: between single quotes, between double quotes with
escapes, as a block of indented lines, or plainly.
-/

namespace CrateShelf.Yaml

/-- A text that was read, and the cursor behind it. -/
abbrev Reading := Try (List Char × Cursor)

/-! ## Quoted texts -/

/-- The line ends at the cursor, in a quoted text with at most a number of
them. -/
def quotedBreaks : Nat → Cursor → Reading
  | 0, _ => refuse
  | count + 1, cursor =>
    if cursor.isAtSeparator then refuse
    else
      let cursor := cursor.pass isGap
      match cursor.lineEnd? with
      | none => .ok ([], cursor)
      | some (char, cursor) => do
        let more ← quotedBreaks count cursor
        return (char :: more.1, more.2)

/-- Spaces and line ends in a quoted text. -/
def quotedGap (cursor : Cursor) : Reading :=
  let gap := cursor.span isGap
  match gap.2.lineEnd? with
  | some (char, after) => do
    let more ← quotedBreaks (after.rest.length + 1) after
    return (folded char more.1, more.2)
  | none => if gap.2.rest.isEmpty then refuse else .ok gap

/-- What a letter after a backslash stands for. -/
def escapes : List (Char × Char) := [
  ('0', '\x00'), ('a', '\x07'), ('b', '\x08'), ('t', '\t'), ('\t', '\t'),
  ('n', '\n'), ('v', '\x0b'), ('f', '\x0c'), ('r', '\r'), ('e', '\x1b'),
  (' ', ' '), ('"', '"'), ('\\', '\\'), ('/', '/'), ('N', '\x85'),
  ('_', '\xa0'), ('L', '\u2028'), ('P', '\u2029')]

/-- The number of hexadecimal digits after a letter. -/
def escapeWidth? (char : Char) : Option Nat :=
  if char = 'x' then some 2
  else if char = 'u' then some 4
  else if char = 'U' then some 8
  else none

/-- The greatest number that can be taken for a code. -/
def greatestCode : Nat := 0x7fffffff

/-- The greatest code of a character. -/
def lastChar : Nat := 0x10ffff

/-- The character whose code is written in hexadecimal digits. -/
def charOfHex (digits : List Char) : Try Char := do
  let code ← demand (Text.readDigits? 16 digits)
  if greatestCode < code then throw .noCode
  else if lastChar < code then throw .noChar
  else if code.isValidChar then return Char.ofNat code
  else refuse

/-- What an escape stands for; the cursor is behind the backslash. -/
def escape (cursor : Cursor) : Reading := do
  let char ← demand cursor.head?
  match escapes.lookup char, escapeWidth? char with
  | some meaning, _ => return ([meaning], cursor.next)
  | none, some width =>
    let digits := cursor.next.rest.take width
    if digits.length < width then refuse
    else return ([← charOfHex digits], cursor.next.skip width)
  | none, none =>
    let (_, after) ← demand cursor.lineEnd?
    quotedBreaks (after.rest.length + 1) after

/-- The rest of a text up to the closing quote, with at most a number of
pieces. -/
def quotedRest (quote : Char) : Nat → Cursor → Reading
  | 0, _ => refuse
  | count + 1, cursor => do
    let char ← demand cursor.head?
    let continued (piece : List Char × Cursor) : Reading := do
      let more ← quotedRest quote count piece.2
      return (piece.1 ++ more.1, more.2)
    if char = quote then
      if quote = '\'' ∧ cursor.peek 1 = some '\'' then
        continued ([char], cursor.skip 2)
      else return ([], cursor.next)
    else if quote = '"' ∧ char = '\\' then continued (← escape cursor.next)
    else if isGap char || isBreak char then continued (← quotedGap cursor)
    else continued ([char], cursor.next)

/-- A quoted text; its quote is next. -/
def quotedText (quote : Char) (cursor : Cursor) : Reading :=
  quotedRest quote (cursor.rest.length + 1) cursor.next

/-! ## Blocks of lines -/

/-- Which line ends are kept after a block. -/
inductive Chomping where
  | one
  | none
  | all
deriving DecidableEq, Repr

/-- What the first line of a block says. -/
structure BlockHead where
  chomping : Chomping := .one
  indent : Option Nat := none

/-- The chomping that a sign asks for. -/
def chomping? (char : Option Char) : Option Chomping :=
  if char = some '+' then some .all
  else if char = some '-' then some .none
  else none

/-- The number that a digit from one to nine stands for, or a fault for
zero. -/
def indentDigit (char : Option Char) : Option (Option Nat) :=
  match char with
  | some digit =>
    if digit = '0' then none
    else if '1' ≤ digit ∧ digit ≤ '9' then
      some (some (digit.toNat - '0'.toNat))
    else some none
  | none => some none

/-- Reads the signs at the start of a block. -/
def blockHead (cursor : Cursor) : Option (BlockHead × Cursor) := do
  match chomping? cursor.head? with
  | some chomping =>
    let indent ← indentDigit (cursor.peek 1)
    return ({ chomping, indent },
      cursor.skip (if indent.isSome then 2 else 1))
  | none =>
    let indent ← indentDigit cursor.head?
    match indent, chomping? (cursor.peek 1) with
    | some _, some chomping => return ({ chomping, indent }, cursor.skip 2)
    | some _, none => return ({ indent }, cursor.next)
    | none, _ => return ({}, cursor)

/-- The cursor behind spaces, a comment and the line end. -/
def restOfLine (cursor : Cursor) : Option Cursor :=
  let cursor := cursor.pass (· == ' ')
  let cursor := if cursor.head? = some '#' then
      cursor.pass (!isBreak ·)
    else cursor
  match cursor.lineEnd? with
  | some (_, after) => some after
  | none => if cursor.rest.isEmpty then some cursor else none

/-- The empty lines at the start of a block and the most spaces met on
one. -/
def blockIndent : Nat → Nat → Cursor → List Char × Nat × Cursor
  | 0, most, cursor => ([], most, cursor)
  | count + 1, most, cursor =>
    match cursor.lineEnd? with
    | some (char, after) =>
      let more := blockIndent count most after
      (char :: more.1, more.2)
    | none =>
      if cursor.head? = some ' ' then
        blockIndent count (max most cursor.next.column) cursor.next
      else ([], most, cursor)

/-- The cursor behind spaces, up to a column. -/
def passIndent (indent : Nat) (cursor : Cursor) : Cursor :=
  cursor.skip ((cursor.rest.takeWhile (· == ' ')).length.min
    (indent - cursor.column))

/-- The empty lines between two lines of a block. -/
def blockBreaks (indent : Nat) : Nat → Cursor → List Char × Cursor
  | 0, cursor => ([], cursor)
  | count + 1, cursor =>
    let cursor := passIndent indent cursor
    match cursor.lineEnd? with
    | some (char, after) =>
      let more := blockBreaks indent count after
      (char :: more.1, more.2)
    | none => ([], cursor)

/-- The lines of a block, the empty lines before the first being given, with
at most a number of lines.  The last line end and the empty lines after it
are kept apart. -/
def blockLines (isFolded : Bool) (indent : Nat) :
    Nat → List Char → Cursor →
      List Char × List Char × List Char × Cursor
  | 0, breaks, cursor => ([], [], breaks, cursor)
  | count + 1, breaks, cursor =>
    if cursor.column = indent && !cursor.rest.isEmpty then
      let isText := !cursor.head?.any isGap
      let line := cursor.span (!isBreak ·)
      let ending := match line.2.lineEnd? with
        | some (char, after) => ([char], after)
        | none => ([], line.2)
      let later :=
        blockBreaks indent (ending.2.rest.length + 1) ending.2
      let text := breaks ++ line.1
      if later.2.column = indent && !later.2.rest.isEmpty then
        let joint :=
          if isFolded && ending.1 == ['\n'] && isText &&
              !later.2.head?.any isGap then
            if later.1.isEmpty then [' '] else []
          else ending.1
        let more := blockLines isFolded indent count later.1 later.2
        (text ++ joint ++ more.1, more.2)
      else (text, ending.1, later.1, later.2)
    else ([], [], breaks, cursor)

/-- A block of lines in a container with an indentation; its sign is
next. -/
def blockText (isFolded : Bool) (parent : Int) (cursor : Cursor) :
    Reading := do
  let (head, cursor) ← demand (blockHead cursor.next)
  let cursor ←
    if cursor.head? = some ' ' || endsLine cursor.head? then
      demand (restOfLine cursor)
    else refuse
  let least := (max (parent + 1) 1).toNat
  let size := cursor.rest.length + 1
  let (breaks, indent, cursor) := match head.indent with
    | some more =>
      let indent := least + more - 1
      let start := blockBreaks indent size cursor
      (start.1, indent, start.2)
    | none =>
      let start := blockIndent size 0 cursor
      (start.1, max least start.2.1, start.2.2)
  let (text, ending, later, cursor) :=
    blockLines isFolded indent size breaks cursor
  let tail := match head.chomping with
    | .none => []
    | .one => ending
    | .all => ending ++ later
  return (text ++ tail, cursor)

/-! ## Plain texts -/

/-- The signs that end a plain text between brackets. -/
def flowSigns : List Char := [',', '?', '[', ']', '\x7b', '\x7d']

/-- Whether a colon stands before what comes next as a sign. -/
def endsKey (isFlow : Bool) (char : Option Char) : Bool :=
  endsWord char ||
    (isFlow && char.any ([',', '[', ']', '\x7b', '\x7d'].contains ·))

/-- The characters of a plain text up to a gap or a sign. -/
def plainRun (isFlow : Bool) : List Char → List Char
  | [] => []
  | char :: rest =>
    if endsWord (some char) || (char = ':' && endsKey isFlow rest.head?) ||
        (isFlow && flowSigns.contains char) then []
    else char :: plainRun isFlow rest

/-- The line ends after the first between two pieces of a plain text; nothing
if a line that separates documents follows. -/
def plainBreaks : Nat → Cursor → Option (List Char) × Cursor
  | 0, cursor => (none, cursor)
  | count + 1, cursor =>
    match cursor.lineEnd? with
    | some (char, after) =>
      if after.isAtSeparator then (none, after)
      else
        let more := plainBreaks count after
        (more.1.map (char :: ·), more.2)
    | none =>
      if cursor.head? = some ' ' then plainBreaks count cursor.next
      else (some [], cursor)

/-- What stands between two pieces of a plain text, the cursor behind it and
whether it holds a line end.  Nothing stands there if the text has ended. -/
def plainGap (cursor : Cursor) : List Char × Cursor × Bool :=
  let gap := cursor.span (· == ' ')
  match gap.2.lineEnd? with
  | none => (gap.1, gap.2, false)
  | some (char, after) =>
    if after.isAtSeparator then ([], after, true)
    else
      match plainBreaks (after.rest.length + 1) after with
      | (some more, after) => (folded char more, after, true)
      | (none, after) => ([], after, true)

/-- The pieces of a plain text, after a gap and with at most a number of
them; whether a line end was last. -/
def plainPieces (isFlow : Bool) (indent : Int) :
    Nat → List Char → Bool → Cursor → List Char × Bool × Cursor
  | 0, _, crossed, cursor => ([], crossed, cursor)
  | count + 1, before, crossed, cursor =>
    let run := plainRun isFlow cursor.rest
    if cursor.head? = some '#' ∨ run = [] then ([], crossed, cursor)
    else
      let gap := plainGap (cursor.skip run.length)
      let text := before ++ run
      if gap.1.isEmpty || gap.2.1.head? = some '#' ||
          (!isFlow && (gap.2.1.column : Int) < indent) then
        (text, gap.2.2, gap.2.1)
      else
        let more := plainPieces isFlow indent count gap.1 gap.2.2 gap.2.1
        (text ++ more.1, more.2)

/-- A plain text in a container with an indentation, whether it ends after a
line end, and the cursor behind it. -/
def plainText (isFlow : Bool) (parent : Int) (cursor : Cursor) :
    List Char × Bool × Cursor :=
  plainPieces isFlow (parent + 1) (cursor.rest.length + 1) [] false cursor

end CrateShelf.Yaml
