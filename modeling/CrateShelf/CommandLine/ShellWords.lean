/-!
# Commands

A command is split into words at blanks.  Quotes hold blanks together; a
backslash takes the next character as it is, and between double quotes only a
double quote or another backslash.
-/

namespace CrateShelf.CommandLine

/-- Why a command cannot be split. -/
inductive CommandError where
  | openQuote
  | openEscape
deriving DecidableEq, Repr

/-- The wording of the error. -/
def CommandError.message : CommandError → String
  | openQuote => "No closing quotation"
  | openEscape => "No escaped character"

/-- Whether a character separates words. -/
def isSeparator (char : Char) : Bool :=
  char = ' ' || char = '\t' || char = '\r' || char = '\n'

/-- A character in front of the first word. -/
def consWord (char : Char) : List (List Char) → List (List Char)
  | [] => [[char]]
  | word :: words => (char :: word) :: words

/-- Where in a command a character stands. -/
inductive Within where
  /-- Between words. -/
  | gap
  /-- In a word, outside quotes. -/
  | word
  | singleQuotes
  | doubleQuotes
deriving DecidableEq, Repr

/-- The words of a command from a place on, the first of them continuing the
word at that place. -/
def wordsFrom : Within → List Char → Except CommandError (List (List Char))
  | .gap, [] => .ok []
  | .word, [] => .ok [[]]
  | .singleQuotes, [] | .doubleQuotes, [] => .error .openQuote
  | .singleQuotes, char :: rest =>
    if char = '\'' then wordsFrom .word rest
    else (wordsFrom .singleQuotes rest).map (consWord char)
  | .doubleQuotes, '\\' :: next :: rest =>
    if next = '"' ∨ next = '\\' then
      (wordsFrom .doubleQuotes rest).map (consWord next)
    else
      (wordsFrom .doubleQuotes rest).map fun words =>
        consWord '\\' (consWord next words)
  | .doubleQuotes, char :: rest =>
    if char = '"' then wordsFrom .word rest
    else if char = '\\' then .error .openEscape
    else (wordsFrom .doubleQuotes rest).map (consWord char)
  | .gap, char :: rest =>
    if isSeparator char then wordsFrom .gap rest
    else if char = '\'' then wordsFrom .singleQuotes rest
    else if char = '"' then wordsFrom .doubleQuotes rest
    else if char = '\\' then
      match rest with
      | [] => .error .openEscape
      | next :: rest => (wordsFrom .word rest).map (consWord next)
    else (wordsFrom .word rest).map (consWord char)
  | .word, char :: rest =>
    if isSeparator char then (wordsFrom .gap rest).map ([] :: ·)
    else if char = '\'' then wordsFrom .singleQuotes rest
    else if char = '"' then wordsFrom .doubleQuotes rest
    else if char = '\\' then
      match rest with
      | [] => .error .openEscape
      | next :: rest => (wordsFrom .word rest).map (consWord next)
    else (wordsFrom .word rest).map (consWord char)

/-- The words of a command. -/
def commandWords (command : String) : Except CommandError (List String) :=
  (wordsFrom .gap command.toList).map (·.map String.ofList)

end CrateShelf.CommandLine
