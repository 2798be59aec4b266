import CrateShelf.Settings.Value
import CrateShelf.Text.Casing
import CrateShelf.Yaml.Fault

/-!
# The meaning of plain texts

A plain text may stand for nothing, a truth value, a number or a time.  Which
of these it is shows in its form.  Whole numbers are written in decimal, after
a zero in octal, or with a mark in binary or hexadecimal; numbers of a clock
are written with colons.  Underscores may stand between digits.
-/

namespace CrateShelf.Yaml

/-- What a plain text is taken for. -/
inductive PlainKind where
  | null
  | bool
  | whole
  | real
  | time
  /-- The key under which other mappings are taken over. -/
  | merge
  /-- The key under which a mapping has its usual value. -/
  | usual
  | text
deriving DecidableEq, Repr

/-! ## Words -/

/-- The words for nothing. -/
def nullWords : List String := ["", "~", "null", "Null", "NULL"]

/-- The truth values by their words. -/
def boolWords : List (String × Bool) := [
  ("yes", true), ("no", false), ("true", true), ("false", false),
  ("on", true), ("off", false)]

/-- The ways to write a word: in small letters, with a capital, in
capitals. -/
def cases (word : String) : List String :=
  [word, word.capitalize, word.toUpper]

/-- Whether a text is a word for a truth value. -/
def isBoolWord (text : String) : Bool :=
  boolWords.any fun (word, _) => (cases word).contains text

/-! ## The form of numbers -/

/-- Whether a character is a digit or an underscore. -/
def isDigitOrLine (char : Char) : Bool := char.isDigit || char == '_'

/-- Whether a text holds nothing but digits of a base and underscores, and
at least one of them. -/
def areDigits (base : Nat) (text : List Char) : Bool :=
  !text.isEmpty && text.all fun char =>
    char == '_' || (Text.digitOf? base char).isSome

/-- Whether a text is a decimal number with underscores after the first
digit. -/
def isCount : List Char → Bool
  | first :: rest => first.isDigit && rest.all isDigitOrLine
  | [] => false

/-- Whether a text is a number below sixty. -/
def isSixtieth : List Char → Bool
  | [digit] => digit.isDigit
  | [ten, digit] => '0' ≤ ten && ten ≤ '5' && digit.isDigit
  | _ => false

/-- Whether a text without a sign is a whole number. -/
def isWholeSize (text : List Char) : Bool :=
  match text with
  | '0' :: 'b' :: digits => areDigits 2 digits
  | '0' :: 'x' :: digits => areDigits 16 digits
  | ['0'] => true
  | '0' :: digits => areDigits 8 digits
  | _ =>
    match text.splitOnP (· == ':') with
    | first :: rest => isCount first && rest.all isSixtieth
    | [] => false

/-- Whether a text is a whole number. -/
def isWhole (text : List Char) : Bool := isWholeSize (Text.takeSign text).2

/-- Whether a text is an exponent or nothing; its sign must be written. -/
def isExponent : List Char → Bool
  | [] => true
  | mark :: sign :: digits =>
    (mark = 'e' || mark = 'E') && (sign = '+' || sign = '-') &&
      !digits.isEmpty && digits.all Char.isDigit
  | _ => false

/-- Whether a text is a number with a point, or one of the words for numbers
that there are not. -/
def isReal (text : List Char) : Bool :=
  let size := (Text.takeSign text).2
  let isSigned := size.length < text.length
  let word := String.ofList size
  if [".inf", ".Inf", ".INF"].contains word then true
  else if [".nan", ".NaN", ".NAN"].contains word then !isSigned
  else
    let whole := size.takeWhile (· != '.')
    match size.drop whole.length with
    | _ :: after =>
      let part := after.takeWhile isDigitOrLine
      let tail := after.drop part.length
      match whole.splitOnP (· == ':') with
      | [[]] => !isSigned && isCount part && isExponent tail
      | [digits] => isCount digits && isExponent tail
      | hours :: more =>
        isCount hours && more.all isSixtieth && tail.isEmpty
      | [] => false
    | [] => false

/-! ## The form of times -/

/-- The distance of a time from world time. -/
inductive Offset where
  | none
  | zero
  | seconds (number : Int)
deriving DecidableEq, Repr

/-- A time of day. -/
structure Clock where
  hour : Nat
  minute : Nat
  second : Nat
  offset : Offset
deriving DecidableEq, Repr

/-- A date, with or without a time of day. -/
structure Time where
  year : Nat
  month : Nat
  day : Nat
  clock : Option Clock
  /-- Whether month and day are written with two digits each. -/
  isPadded : Bool
deriving DecidableEq, Repr

/-- A number of at least one and at most some digits, and the rest. -/
def number? (most : Nat) (text : List Char) : Option (Nat × List Char) :=
  let digits := (text.take most).takeWhile Char.isDigit
  (Text.readDigits? 10 digits).map fun number =>
    (number, text.drop digits.length)

/-- A number of exactly some digits, and the rest. -/
def fixedNumber? (width : Nat) (text : List Char) :
    Option (Nat × List Char) := do
  let (number, rest) ← number? width text
  if rest.length + width = text.length then some (number, rest) else none

/-- The rest of a text after a character. -/
def after? (char : Char) : List Char → Option (List Char)
  | first :: rest => if first = char then some rest else none
  | [] => none

/-- The distance from world time at the end of a time. -/
def offset? (text : List Char) : Option Offset :=
  match text.dropWhile fun char => char = ' ' || char = '\t' with
  | [] => if text.isEmpty then some .none else none
  | ['Z'] => some .zero
  | sign :: rest =>
    if sign = '+' || sign = '-' then do
      let (hours, rest) ← number? 2 rest
      let minutes ← match rest with
        | [] => some 0
        | ':' :: rest => do
          let (minutes, rest) ← fixedNumber? 2 rest
          if rest.isEmpty then some minutes else none
        | _ => none
      let size : Int := 3600 * hours + 60 * minutes
      return .seconds (if sign = '-' then -size else size)
    else none

/-- The time of day after a date. -/
def clock? (text : List Char) : Option Clock := do
  let (hour, rest) ← number? 2 text
  let (minute, rest) ← fixedNumber? 2 (← after? ':' rest)
  let (second, rest) ← fixedNumber? 2 (← after? ':' rest)
  let rest := match rest with
    | '.' :: more => more.dropWhile Char.isDigit
    | _ => rest
  return ⟨hour, minute, second, ← offset? rest⟩

/-- The rest of a text after what separates a date from a time of day. -/
def afterDate? (text : List Char) : Option (List Char) :=
  match text with
  | 'T' :: rest | 't' :: rest => some rest
  | _ =>
    let gap := text.takeWhile fun char => char = ' ' || char = '\t'
    if gap.isEmpty then none else some (text.drop gap.length)

/-- The time that a text writes. -/
def time? (text : List Char) : Option Time := do
  let (year, rest) ← fixedNumber? 4 text
  let (month, rest) ← number? 2 (← after? '-' rest)
  let (day, rest) ← number? 2 (← after? '-' rest)
  let clock ←
    if rest.isEmpty then some none
    else (clock? (← afterDate? rest)).map some
  let isPadded := text.length - rest.length = 10
  return { year, month, day, clock, isPadded }

/-- The number of days in a month. -/
def daysIn (year month : Nat) : Nat :=
  if month = 2 then
    if year % 4 = 0 ∧ (year % 100 ≠ 0 ∨ year % 400 = 0) then 29 else 28
  else if month ∈ [4, 6, 9, 11] then 30
  else 31

/-- Whether there is such a time. -/
def Time.check (time : Time) : Except TimeFault Unit := do
  if let some { offset := .seconds number, .. } := time.clock then
    if 86400 ≤ number.natAbs then throw (.offset number)
  if time.year = 0 then throw (.year time.year)
  if time.month = 0 || 12 < time.month then throw .month
  if time.day = 0 || daysIn time.year time.month < time.day then throw .day
  if let some clock := time.clock then
    if 23 < clock.hour then throw .hour
    if 59 < clock.minute then throw .minute
    if 59 < clock.second then throw .second

/-- Whether a text looks like a time.  A date alone needs two digits for month
and day. -/
def isTime (text : List Char) : Bool :=
  match time? text with
  | some time => time.isPadded || time.clock.isSome
  | none => false

/-! ## Kinds and values -/

/-- What a plain text is taken for.  A line end after it does not count. -/
def PlainKind.of (text : String) : PlainKind :=
  let chars := text.toList
  let core :=
    if 1 < chars.length && chars.getLast? = some '\n' then chars.dropLast
    else chars
  let word := String.ofList core
  if isBoolWord word then .bool
  else if isReal core then .real
  else if isWhole core then .whole
  else if word = "<<" then .merge
  else if nullWords.contains word then .null
  else if isTime core then .time
  else if word = "=" then .usual
  else .text

/-- A text without underscores. -/
def withoutLines (text : String) : List Char :=
  text.toList.filter (· != '_')

/-- The sum of the parts of a clock, each of which counts sixty times the
next one. -/
def clockSum (parts : List Int) : Int :=
  parts.foldl (fun total part => total * 60 + part) 0

/-- The whole number that a text stands for. -/
def readWhole (text : String) : Try Int := do
  let number (base : Nat) (digits : List Char) : Try Int :=
    (Text.readWhole base digits).mapError .number
  let chars := withoutLines text
  if chars.isEmpty then throw .noDigits
  let (isNegative, size) := Text.takeSign chars
  let value ← match size with
    | [] => throw .noDigits
    | ['0'] => pure 0
    | '0' :: 'b' :: digits => number 2 digits
    | '0' :: 'x' :: digits => number 16 digits
    | '0' :: _ => number 8 size
    | _ =>
      if size.contains ':' then do
        return clockSum (← (size.splitOnP (· == ':')).mapM (number 10))
      else number 10 size
  return if isNegative then -value else value

/-- The sum of the parts of a clock that may have points, from the last part
on. -/
def realClockSum (parts : List UInt64) : UInt64 :=
  (parts.reverse.zipIdx.foldl
    (fun total (part, place) =>
      Double.add total (Double.scale part (Nat.pow 60 place)))
    (Double.ofPattern false 0))

/-- The number with a point that a text stands for. -/
def readReal (text : String) : Try UInt64 := do
  let number (digits : List Char) : Try UInt64 :=
    (Text.readReal digits).mapError .number
  let chars := Text.lower (withoutLines text)
  if chars.isEmpty then throw .noDigits
  let (isNegative, size) := Text.takeSign chars
  let word := String.ofList size
  let value ←
    if word = ".inf" then
      pure (Double.ofPattern false Double.infinite)
    else if word = ".nan" then return Double.notNumber
    else if size.contains ':' then do
      pure (realClockSum (← (size.splitOnP (· == ':')).mapM number))
    else number size
  return if isNegative then Double.negate value else value

/-- The truth value that a text stands for. -/
def readBool (text : String) : Try Bool :=
  match boolWords.lookup (String.ofList (Text.lower text.toList)) with
  | some flag => .ok flag
  | none => .error .noWord

/-- The time that a text stands for, as it is written. -/
def readTime (text : String) : Try Setting :=
  let chars := text.toList
  let core :=
    if chars.getLast? = some '\n' then chars.dropLast else chars
  match time? core with
  | none => .error .noTime
  | some time =>
    match time.check with
    | .ok _ => .ok (.time text)
    | .error fault => .error (.time fault)

/-- The setting that a text stands for as one of a kind. -/
def readAs (text : String) : PlainKind → Try Setting
  | .null => return .null
  | .bool => return .bool (← readBool text)
  | .whole => return .int (← readWhole text)
  | .real => return .real (← readReal text)
  | .time => readTime text
  | .text => return .text text
  | .merge | .usual => refuse

end CrateShelf.Yaml
