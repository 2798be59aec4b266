/-!
# Places in a YAML text

A cursor is the rest of a text together with the place where it starts.  A
line ends at a line feed, a return, a next line or a Unicode separator.
-/

namespace CrateShelf.Yaml

/-- The rest of a text and where it starts. -/
structure Cursor where
  rest : List Char
  index : Nat := 0
  line : Nat := 0
  column : Nat := 0
deriving Repr, Inhabited

/-- Whether a character ends a line. -/
def isBreak (char : Char) : Bool :=
  char = '\n' || char = '\r' || char = '\x85' || char = '\u2028' ||
    char = '\u2029'

/-- Whether a character is a space or a tab. -/
def isGap (char : Char) : Bool :=
  char = ' ' || char = '\t'

/-- Whether a line or the text ends with what comes next. -/
def endsLine : Option Char → Bool
  | none => true
  | some char => isBreak char

/-- Whether a word ends with what comes next. -/
def endsWord : Option Char → Bool
  | none => true
  | some char => isGap char || isBreak char

/-- The mark that stands at the start of a text and is no part of it. -/
def byteOrderMark : Char := '\uFEFF'

namespace Cursor

/-- The character some places ahead. -/
def peek (cursor : Cursor) (ahead : Nat) : Option Char :=
  cursor.rest[ahead]?

/-- The next character. -/
def head? (cursor : Cursor) : Option Char :=
  cursor.rest.head?

/-- The cursor behind one more character. -/
def next (cursor : Cursor) : Cursor :=
  match cursor.rest with
  | [] => cursor
  | char :: rest =>
    let moved := { cursor with rest, index := cursor.index + 1 }
    if isBreak char && !(char == '\r' && rest.head? == some '\n') then
      { moved with line := cursor.line + 1, column := 0 }
    else if char = byteOrderMark then moved
    else { moved with column := cursor.column + 1 }

/-- The cursor behind some more characters. -/
def skip (cursor : Cursor) : Nat → Cursor
  | 0 => cursor
  | count + 1 => cursor.next.skip count

/-- The characters up to the first without a property, and the cursor behind
them. -/
def span (cursor : Cursor) (property : Char → Bool) : List Char × Cursor :=
  let taken := cursor.rest.takeWhile property
  (taken, cursor.skip taken.length)

/-- The cursor behind all characters with a property. -/
def pass (cursor : Cursor) (property : Char → Bool) : Cursor :=
  (cursor.span property).2

/-- The line end at the cursor as it is read, and the cursor behind it. -/
def lineEnd? (cursor : Cursor) : Option (Char × Cursor) :=
  match cursor.rest with
  | '\r' :: '\n' :: _ => some ('\n', cursor.skip 2)
  | char :: _ =>
    if char = '\u2028' ∨ char = '\u2029' then some (char, cursor.next)
    else if isBreak char then some ('\n', cursor.next)
    else none
  | [] => none

/-- Whether three equal characters that stand as a word are next. -/
def isAtTriple (cursor : Cursor) (char : Char) : Bool :=
  cursor.rest.take 3 == [char, char, char] && endsWord (cursor.peek 3)

/-- Whether a line that separates documents is next. -/
def isAtSeparator (cursor : Cursor) : Bool :=
  cursor.isAtTriple '-' || cursor.isAtTriple '.'

end Cursor

/-- What stands in a text for a line end and the further line ends after it:
one line end is a space, and of several the first is dropped. -/
def folded (first : Char) (more : List Char) : List Char :=
  if first ≠ '\n' then first :: more
  else if more.isEmpty then [' ']
  else more

end CrateShelf.Yaml
