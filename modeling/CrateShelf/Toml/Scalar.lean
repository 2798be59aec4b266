import CrateShelf.Text.Number

/-!
# Texts, numbers and times in TOML

Each reader takes the start of a text and yields what it read and the rest,
or nothing if the text does not start so.
-/

namespace CrateShelf.Toml

/-- Whether a character is a space or a tab. -/
def isGap (char : Char) : Bool :=
  char = ' ' || char = '\t'

/-- A text without the spaces and tabs at its start. -/
def passGap (text : List Char) : List Char :=
  text.dropWhile isGap

/-- Whether a character cannot stand in a text, a comment or between
lines. -/
def isControl (char : Char) : Bool :=
  (char.toNat < 32 && char != '\t') || char.toNat = 127

/-- The rest of a text after its start. -/
def after? (start : String) (text : List Char) : Option (List Char) :=
  if start.toList.isPrefixOf text then some (text.drop start.length)
  else none

/-! ## Texts -/

/-- What the letter after a backslash stands for. -/
def escapes : List (Char × Char) := [
  ('b', '\x08'), ('t', '\t'), ('n', '\n'), ('f', '\x0c'), ('r', '\r'),
  ('"', '"'), ('\\', '\\')]

/-- The character written with a number of hexadecimal digits. -/
def hexChar (width : Nat) (text : List Char) :
    Option (List Char × List Char) := do
  let digits := text.take width
  let code ← Text.readDigits? 16 digits
  if digits.length < width || !code.isValidChar then none
  else return ([Char.ofNat code], text.drop width)

/-- The rest of a line end that is left out, with all spaces and line ends
after it. -/
def leftOut (text : List Char) : Option (List Char × List Char) :=
  match passGap text with
  | [] => some ([], [])
  | '\n' :: rest =>
    some ([], rest.dropWhile fun char => isGap char || char == '\n')
  | _ => none

/-- What an escape stands for; the backslash has been read. -/
def escape (isMultiline : Bool) (text : List Char) :
    Option (List Char × List Char) :=
  match text with
  | [] => none
  | char :: rest =>
    if isMultiline && (isGap char || char == '\n') then leftOut text
    else if char = 'u' then hexChar 4 rest
    else if char = 'U' then hexChar 8 rest
    else (escapes.lookup char).map fun meaning => ([meaning], rest)

/-- A text with escapes up to its closing quotes, with at most a number of
pieces. -/
def escaped (isMultiline : Bool) :
    Nat → List Char → Option (List Char × List Char)
  | 0, _ => none
  | count + 1, text =>
    let continued (piece : List Char) (rest : List Char) :
        Option (List Char × List Char) := do
      let more ← escaped isMultiline count rest
      return (piece ++ more.1, more.2)
    match text with
    | [] => none
    | '"' :: rest =>
      if !isMultiline then some ([], rest)
      else
        match after? "\"\"\"" text with
        | some rest => some ([], rest)
        | none => continued ['"'] rest
    | '\\' :: rest => do
      let (piece, rest) ← escape isMultiline rest
      continued piece rest
    | char :: rest =>
      if isControl char && !(isMultiline && char == '\n') then none
      else continued [char] rest

/-- A text without escapes up to its closing quotes. -/
def literal (isMultiline : Bool) : List Char → Option (List Char × List Char)
  | [] => none
  | char :: rest =>
    let closing := if isMultiline then "'''" else "'"
    match after? closing (char :: rest) with
    | some rest => some ([], rest)
    | none =>
      if isControl char && !(isMultiline && char == '\n') then none
      else do
        let more ← literal isMultiline rest
        return (char :: more.1, more.2)

/-- A text of several lines with the quotes that stand before its closing
ones. -/
def withQuotes (quote : Char) (read : List Char × List Char) :
    List Char × List Char :=
  match read.2 with
  | first :: second :: rest =>
    if first = quote ∧ second = quote then (read.1 ++ [quote, quote], rest)
    else if first = quote then (read.1 ++ [quote], second :: rest)
    else read
  | [first] => if first = quote then (read.1 ++ [quote], []) else read
  | [] => read

/-- A text without the line end right after its opening quotes. -/
def passFirstEnd : List Char → List Char
  | '\n' :: rest => rest
  | text => text

/-- A text on one line; its quote is first. -/
def lineText : List Char → Option (List Char × List Char)
  | '"' :: rest => escaped false (rest.length + 1) rest
  | '\'' :: rest => literal false rest
  | _ => none

/-- A text; its quote is first. -/
def text (content : List Char) : Option (List Char × List Char) :=
  match after? "\"\"\"" content, after? "'''" content with
  | some rest, _ =>
    (escaped true (rest.length + 1) (passFirstEnd rest)).map
      (withQuotes '"')
  | none, some rest =>
    (literal true (passFirstEnd rest)).map (withQuotes '\'')
  | none, none => lineText content

/-! ## Numbers -/

/-- The rest after more digits, each of which may follow a low line. -/
def moreDigits (isDigit : Char → Bool) : List Char → List Char
  | '_' :: digit :: rest =>
    if isDigit digit then moreDigits isDigit rest else '_' :: digit :: rest
  | digit :: rest =>
    if isDigit digit then moreDigits isDigit rest else digit :: rest
  | [] => []

/-- The rest after at least one digit. -/
def digits? (isDigit : Char → Bool) : List Char → Option (List Char)
  | digit :: rest =>
    if isDigit digit then some (moreDigits isDigit rest) else none
  | [] => none

/-- Whether a character is a digit of a base. -/
def isDigitOf (base : Nat) (char : Char) : Bool :=
  (Text.digitOf? base char).isSome

/-- The rest after a number with a mark for its base. -/
def marked? : List Char → Option (List Char)
  | '0' :: 'x' :: rest => digits? (isDigitOf 16) rest
  | '0' :: 'b' :: rest => digits? (isDigitOf 2) rest
  | '0' :: 'o' :: rest => digits? (isDigitOf 8) rest
  | _ => none

/-- A text without the sign at its start. -/
def passSign : List Char → List Char
  | '+' :: rest => rest
  | '-' :: rest => rest
  | text => text

/-- The rest after the part behind the point, if there is one. -/
def passFraction (text : List Char) : List Char :=
  match text with
  | '.' :: rest => (digits? Char.isDigit rest).getD text
  | _ => text

/-- The rest after an exponent, if there is one. -/
def passExponent (text : List Char) : List Char :=
  match text with
  | mark :: rest =>
    if mark = 'e' ∨ mark = 'E' then
      (digits? Char.isDigit (passSign rest)).getD text
    else text
  | [] => text

/-- The rest after a number. -/
def number? (text : List Char) : Option (List Char) :=
  match marked? text with
  | some rest => some rest
  | none =>
    let whole := match passSign text with
      | '0' :: rest => some rest
      | rest => digits? Char.isDigit rest
    whole.map fun rest => passExponent (passFraction rest)

/-! ## Dates and times -/

/-- A number of a fixed count of digits between two bounds. -/
def fixed (width least most : Nat) (text : List Char) :
    Option (Nat × List Char) :=
  let digits := text.take width
  if digits.length = width ∧ digits.all Char.isDigit then
    let value := digits.foldl
      (fun sum digit => sum * 10 + (digit.toNat - '0'.toNat)) 0
    if least ≤ value ∧ value ≤ most then some (value, text.drop width)
    else none
  else none

/-- The rest after a time of day. -/
def time? (text : List Char) : Option (List Char) := do
  let (_, rest) ← fixed 2 0 23 text
  let (_, rest) ← fixed 2 0 59 (← after? ":" rest)
  let (_, rest) ← fixed 2 0 59 (← after? ":" rest)
  match rest with
  | '.' :: digit :: more =>
    return if digit.isDigit then more.dropWhile Char.isDigit else rest
  | _ => return rest

/-- The rest after the distance from world time, if there is one. -/
def passOffset (text : List Char) : List Char :=
  let offset : Option (List Char) :=
    match text with
    | mark :: rest =>
      if mark = 'Z' ∨ mark = 'z' then some rest
      else if mark = '+' ∨ mark = '-' then do
        let (_, rest) ← fixed 2 0 23 rest
        let (_, rest) ← fixed 2 0 59 (← after? ":" rest)
        return rest
      else none
    | [] => none
  offset.getD text

/-- The number of days in a month. -/
def daysIn (year month : Nat) : Nat :=
  if month = 2 then
    if year % 4 = 0 ∧ (year % 100 ≠ 0 ∨ year % 400 = 0) then 29 else 28
  else if month ∈ [4, 6, 9, 11] then 30
  else 31

/-- Whether there is such a day, and the rest after a date with or without a
time. -/
def date (text : List Char) : Option (Bool × List Char) := do
  let (year, rest) ← fixed 4 0 9999 text
  let (month, rest) ← fixed 2 1 12 (← after? "-" rest)
  let (day, rest) ← fixed 2 1 31 (← after? "-" rest)
  let isDay := decide (1 ≤ year ∧ day ≤ daysIn year month)
  match rest with
  | mark :: more =>
    if mark = 'T' ∨ mark = 't' ∨ mark = ' ' then
      match time? more with
      | some later => return (isDay, passOffset later)
      | none => return (isDay, rest)
    else return (isDay, rest)
  | [] => return (isDay, rest)

end CrateShelf.Toml
