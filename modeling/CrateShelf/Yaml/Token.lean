import CrateShelf.Yaml.Scalar

/-!
# The tokens of a YAML text

Brackets, signs and texts, and beside them the tokens that indentation
stands for: where a block starts and ends.  That a text is the key of a
mapping shows only at the colon after it, so the places where a key may have
started are remembered, one for each pair of brackets that is open.
-/

namespace CrateShelf.Yaml

/-- A token. -/
inductive Token where
  | directive (name : String) (values : List String)
  | documentStart
  | documentEnd
  | blockSequenceStart
  | blockMappingStart
  | blockEnd
  | flowSequenceStart
  | flowSequenceEnd
  | flowMappingStart
  | flowMappingEnd
  | flowEntry
  | blockEntry
  | key
  | value
  | reference (name : String)
  | anchor (name : String)
  | tag (handle : Option String) (suffix : String)
  | scalar (text : String) (isPlain : Bool)
deriving DecidableEq, Repr, Inhabited

/-- A place where the key of a mapping may have started. -/
structure KeyMark where
  /-- The number of tokens before it. -/
  place : Nat
  /-- Whether nothing but a key can stand there. -/
  isRequired : Bool
  index : Nat
  line : Nat
  column : Nat
deriving Repr

/-- How far a text has been cut into tokens. -/
structure Progress where
  cursor : Cursor
  tokens : List Token := []
  /-- The indentation of the block that is open. -/
  indent : Int := -1
  /-- The indentations of the blocks around it. -/
  outer : List Int := []
  /-- The number of brackets that are open. -/
  depth : Nat := 0
  /-- Whether a key may start here. -/
  allowsKey : Bool := true
  /-- The places where keys may have started, by the number of open
  brackets. -/
  marks : List (Nat × KeyMark) := []

namespace Progress

/-- How far a key may be from its colon. -/
def longestKey : Nat := 1024

/-- One more token, with the cursor behind it. -/
def add (progress : Progress) (token : Token) (cursor : Cursor) : Progress :=
  { progress with tokens := progress.tokens ++ [token], cursor }

/-- Puts tokens before those from a place on. -/
def insertAt (progress : Progress) (place : Nat) (tokens : List Token) :
    Progress :=
  { progress with
    tokens := progress.tokens.take place ++ tokens ++
      progress.tokens.drop place }

/-- Whether a mark is too far back: on another line, or too many characters
ago. -/
def isStale (progress : Progress) (mark : KeyMark) : Bool :=
  mark.line ≠ progress.cursor.line ||
    longestKey < progress.cursor.index - mark.index

/-- Forgets the marks that are too far back; one that needed a key is a
fault. -/
def dropStale (progress : Progress) : Try Progress :=
  if progress.marks.any fun known =>
      progress.isStale known.2 && known.2.isRequired then refuse
  else .ok { progress with
    marks := progress.marks.filter fun known => !progress.isStale known.2 }

/-- Forgets the mark of the innermost brackets; one that needed a key is a
fault. -/
def dropMark (progress : Progress) : Try Progress :=
  match progress.marks.lookup progress.depth with
  | none => .ok progress
  | some mark =>
    if mark.isRequired then refuse
    else .ok { progress with
      marks := progress.marks.filter fun known =>
        known.1 != progress.depth }

/-- Remembers that a key may start here. -/
def saveMark (progress : Progress) : Try Progress := do
  if progress.allowsKey then
    let progress ← progress.dropMark
    let cursor := progress.cursor
    let mark : KeyMark := {
      place := progress.tokens.length
      isRequired :=
        progress.depth = 0 && progress.indent = (cursor.column : Int)
      index := cursor.index
      line := cursor.line
      column := cursor.column }
    return { progress with
      marks := (progress.depth, mark) :: progress.marks }
  else return progress

/-- How many of the open blocks are indented more than a column, the
indentation of the block that stays open, and those of the blocks around
it. -/
def closing (column indent : Int) : List Int → Nat × Int × List Int
  | [] => (0, indent, [])
  | next :: more =>
    if column < indent then
      let closed := closing column next more
      (closed.1 + 1, closed.2)
    else (0, indent, next :: more)

/-- Ends the blocks that are indented more than a column. -/
def closeBlocks (progress : Progress) (column : Int) : Progress :=
  if progress.depth ≠ 0 then progress
  else
    let closed := closing column progress.indent progress.outer
    { progress with
      tokens := progress.tokens ++ List.replicate closed.1 .blockEnd
      indent := closed.2.1
      outer := closed.2.2 }

/-- Opens a block at a column, if none is open there. -/
def openBlock (progress : Progress) (column : Nat) : Option Progress :=
  if progress.indent < column then
    some { progress with
      indent := column
      outer := progress.indent :: progress.outer }
  else none

/-- Opens a block at the cursor, if none is open there, and adds the token
for it. -/
def startBlock (progress : Progress) (token : Token) : Progress :=
  match progress.openBlock progress.cursor.column with
  | some opened => opened.add token opened.cursor
  | none => progress

/-- The progress with a key allowed or not. -/
def allowing (progress : Progress) (allowsKey : Bool) : Progress :=
  { progress with allowsKey }

/-- Passes spaces, comments and line ends up to the next token. -/
def passGaps : Nat → Progress → Progress
  | 0, progress => progress
  | count + 1, progress =>
    let cursor := progress.cursor.pass (· == ' ')
    let cursor := if cursor.head? = some '#' then cursor.pass (!isBreak ·)
      else cursor
    match cursor.lineEnd? with
    | some (_, after) =>
      passGaps count { progress with
        cursor := after
        allowsKey := progress.allowsKey || progress.depth = 0 }
    | none => { progress with cursor }

/-- Goes to the next token: gaps are passed and blocks that have ended are
closed. -/
def toToken (progress : Progress) : Try Progress := do
  let progress := progress.passGaps (progress.cursor.rest.length + 1)
  let progress ← progress.dropStale
  return progress.closeBlocks progress.cursor.column

/-! ## Signs -/

/-- Ends all blocks before a line that is about documents. -/
def leaveDocument (progress : Progress) : Try Progress := do
  let progress ← (progress.closeBlocks (-1)).dropMark
  return progress.allowing false

/-- A line that separates documents. -/
def separator (token : Token) (progress : Progress) : Try Progress := do
  let progress ← progress.leaveDocument
  return progress.add token (progress.cursor.skip 3)

/-- An opening bracket. -/
def openBracket (token : Token) (progress : Progress) : Try Progress := do
  let progress ← progress.saveMark
  return { progress.add token progress.cursor.next with
    depth := progress.depth + 1, allowsKey := true }

/-- A closing bracket. -/
def closeBracket (token : Token) (progress : Progress) :
    Try Progress := do
  let progress ← progress.dropMark
  if progress.depth = 0 then refuse
  else return { progress.add token progress.cursor.next with
    depth := progress.depth - 1, allowsKey := false }

/-- A comma between brackets. -/
def comma (progress : Progress) : Try Progress := do
  let progress ← (progress.allowing true).dropMark
  return progress.add .flowEntry progress.cursor.next

/-- A dash before an item of a sequence. -/
def dash (progress : Progress) : Try Progress := do
  let progress ←
    if progress.depth = 0 then
      if progress.allowsKey then
        pure (progress.startBlock .blockSequenceStart)
      else refuse
    else pure progress
  let progress ← (progress.allowing true).dropMark
  return progress.add .blockEntry progress.cursor.next

/-- A question mark before a key. -/
def questionMark (progress : Progress) : Try Progress := do
  let progress ←
    if progress.depth = 0 then
      if progress.allowsKey then
        pure (progress.startBlock .blockMappingStart)
      else refuse
    else pure progress
  let progress ← (progress.allowing (progress.depth = 0)).dropMark
  return progress.add .key progress.cursor.next

/-- A colon before a value.  If a key may have started before, it did. -/
def colon (progress : Progress) : Try Progress := do
  let progress ←
    match progress.marks.lookup progress.depth with
    | some mark =>
      let progress := { progress with
        marks := progress.marks.filter fun known =>
          known.1 != progress.depth
        allowsKey := false }
      if progress.depth = 0 then
        match progress.openBlock mark.column with
        | some opened =>
          pure (opened.insertAt mark.place [.blockMappingStart, .key])
        | none => pure (progress.insertAt mark.place [.key])
      else pure (progress.insertAt mark.place [.key])
    | none =>
      if progress.depth = 0 then
        if progress.allowsKey then
          ((progress.startBlock .blockMappingStart).allowing true).dropMark
        else refuse
      else (progress.allowing false).dropMark
  return progress.add .value progress.cursor.next

/-! ## Names -/

/-- Whether a character may stand in the name of an anchor. -/
def isNameChar (char : Char) : Bool :=
  char.isAlphanum || char = '-' || char = '_'

/-- Whether the name of an anchor may end before what comes next. -/
def endsName (char : Option Char) : Bool :=
  endsWord char ||
    char.any (['?', ':', ',', ']', '\x7d', '%', '@', '\x60'].contains ·)

/-- An anchor or an alias. -/
def nameAfter (build : String → Token) (progress : Progress) :
    Try Progress := do
  let progress ← progress.saveMark
  let (name, cursor) := progress.cursor.next.span isNameChar
  if name.isEmpty || !endsName cursor.head? then refuse
  else
    return (progress.add (build (String.ofList name)) cursor).allowing false

/-- Whether a character may stand in a tag. -/
def isTagChar (char : Char) : Bool :=
  char.isAlphanum || "-;/?:@&=+$,_.!~*'()[]%".toList.contains char

/-- The handle and suffix of a tag, without its first sign. -/
def tagParts (word : List Char) : Option (Option String × List Char) :=
  if word.contains '!' then
    let name := word.takeWhile isNameChar
    match word.drop name.length with
    | '!' :: suffix =>
      some (some (String.ofList ('!' :: name ++ ['!'])), suffix)
    | _ => none
  else some (some "!", word)

/-- A tag. -/
def tagSign (progress : Progress) : Try Progress := do
  let progress ← progress.saveMark
  let after := progress.cursor.next
  let (token, cursor) ←
    if after.head? = some '<' then do
      let (suffix, cursor) := after.next.span fun char =>
        isTagChar char
      if suffix.isEmpty || cursor.head? ≠ some '>' then refuse
      else pure (Token.tag none (String.ofList suffix), cursor.next)
    else if endsWord after.head? then pure (Token.tag none "!", after)
    else do
      let (word, cursor) := after.span fun char =>
        char != ' ' && !isBreak char
      let (handle, suffix) ← demand (tagParts word)
      if suffix.isEmpty || !suffix.all isTagChar then refuse
      else pure (Token.tag handle (String.ofList suffix), cursor)
  if cursor.head? = some ' ' || endsLine cursor.head? then
    return (progress.add token cursor).allowing false
  else refuse

/-- The words of a line, separated by spaces. -/
def wordsOf (line : List Char) : List (List Char) :=
  (line.splitOnP (· == ' ')).filter (!·.isEmpty)

/-- A line with a directive. -/
def directiveLine (progress : Progress) : Try Progress := do
  let progress ← progress.leaveDocument
  let (name, cursor) := progress.cursor.next.span isNameChar
  if name.isEmpty || !(cursor.head? = some ' ' || endsLine cursor.head?) then
    refuse
  else
    let (line, cursor) := cursor.span (!isBreak ·)
    let words := (wordsOf line).takeWhile fun word =>
      word.head? != some '#'
    return progress.add
      (.directive (String.ofList name) (words.map String.ofList)) cursor

/-! ## Texts -/

/-- A text between quotes. -/
def quotedToken (quote : Char) (progress : Progress) : Try Progress := do
  let progress ← progress.saveMark
  let (text, cursor) ← quotedText quote progress.cursor
  return (progress.add (.scalar (String.ofList text) false) cursor).allowing
    false

/-- A block of lines. -/
def blockToken (isFolded : Bool) (progress : Progress) :
    Try Progress := do
  let progress ← (progress.allowing true).dropMark
  let (text, cursor) ←
    blockText isFolded progress.indent progress.cursor
  return progress.add (.scalar (String.ofList text) false) cursor

/-- A plain text. -/
def plainToken (progress : Progress) : Try Progress := do
  let progress ← progress.saveMark
  let (text, crossed, cursor) :=
    plainText (progress.depth ≠ 0) progress.indent progress.cursor
  return (progress.add (.scalar (String.ofList text) true) cursor).allowing
    crossed

/-- The signs that a plain text cannot start with. -/
def startSigns : List Char :=
  "-?:,[]\x7b\x7d#&*!|>'\"%@\x60".toList

/-- Whether a plain text starts here. -/
def startsPlain (progress : Progress) (char : Char) : Bool :=
  (!endsWord (some char) && !startSigns.contains char) ||
    (!endsWord (progress.cursor.peek 1) &&
      (char = '-' || (progress.depth = 0 && (char = '?' || char = ':'))))

/-- Reads the token that starts with a character. -/
def token (progress : Progress) (char : Char) : Try Progress :=
  let cursor := progress.cursor
  let isAlone := endsWord (cursor.peek 1)
  if char = '%' ∧ cursor.column = 0 then progress.directiveLine
  else if cursor.column = 0 && cursor.isAtTriple '-' then
    progress.separator .documentStart
  else if cursor.column = 0 && cursor.isAtTriple '.' then
    progress.separator .documentEnd
  else if char = '[' then progress.openBracket .flowSequenceStart
  else if char = '\x7b' then progress.openBracket .flowMappingStart
  else if char = ']' then progress.closeBracket .flowSequenceEnd
  else if char = '\x7d' then progress.closeBracket .flowMappingEnd
  else if char = ',' then progress.comma
  else if char = '-' && isAlone then progress.dash
  else if char = '?' && (progress.depth ≠ 0 || isAlone) then
    progress.questionMark
  else if char = ':' && (progress.depth ≠ 0 || isAlone) then progress.colon
  else if char = '*' then progress.nameAfter .reference
  else if char = '&' then progress.nameAfter .anchor
  else if char = '!' then progress.tagSign
  else if char = '|' ∧ progress.depth = 0 then progress.blockToken false
  else if char = '>' ∧ progress.depth = 0 then progress.blockToken true
  else if char = '\'' ∨ char = '"' then progress.quotedToken char
  else if progress.startsPlain char then progress.plainToken
  else refuse

/-- All blocks closed at the end of the text. -/
def finish (progress : Progress) : Progress :=
  let progress := progress.passGaps (progress.cursor.rest.length + 1)
  (progress.closeBlocks progress.cursor.column).closeBlocks (-1)

/-- Reads one more token; nothing at the end of the text. -/
def step (progress : Progress) : Try (Option Progress) := do
  let progress ← progress.toToken
  match progress.cursor.head? with
  | none =>
    let _ ← (progress.closeBlocks (-1)).dropMark
    return none
  | some char => return some (← progress.token char)

/-- The tokens of which it is known what they are, when a fault comes next:
those before the first place where a key may have started. -/
def settled (progress : Progress) : Progress :=
  let places := progress.marks.map (·.2.place)
  { progress with
    tokens := progress.tokens.take
      (places.foldl min progress.tokens.length) }

/-- Reads the rest of the tokens, with at most a number of them, and tells
the fault that comes after them, if there is one. -/
def run : Nat → Progress → Progress × Option Fault
  | 0, progress => (progress, some .malformed)
  | count + 1, progress =>
    match progress.step with
    | .ok (some next) => run count next
    | .ok none => (progress.finish, none)
    | .error fault => (progress.settled, some fault)

end Progress

/-- Whether a character may stand in a YAML text. -/
def isAllowed (char : Char) : Bool :=
  let code := char.toNat
  char = '\t' || char = '\n' || char = '\r' || char = '\x85' ||
    (32 ≤ code && code ≤ 126) || (160 ≤ code && code ≤ 0xFFFD) ||
    0x10000 ≤ code

/-- The tokens of a text, and the fault that comes after them, if there is
one. -/
def tokens (text : List Char) : List Token × Option Fault :=
  if text.all isAllowed then
    let text := if text.head? = some byteOrderMark then text.tail else text
    let (progress, fault?) :=
      Progress.run (text.length + 1) { cursor := { rest := text } }
    (progress.tokens, fault?)
  else ([], some .malformed)

end CrateShelf.Yaml
