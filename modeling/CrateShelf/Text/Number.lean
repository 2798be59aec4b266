import CrateShelf.Double
import CrateShelf.Text.Blank
import CrateShelf.Text.CharClass
import CrateShelf.Text.Quoted

/-!
# Numbers in texts

A number may stand between blanks and have a sign.  A whole number is written
in the digits of a base, after a mark for the base if there is one; a number
with a point may have an exponent.  The digits of all scripts count.
-/

namespace CrateShelf

/-- Why a text is no number. -/
inductive NumberError where
  /-- No whole number in a base. -/
  | notWhole (base : Nat) (text : String)
  /-- No number with or without a point. -/
  | notReal (text : String)
  /-- More digits than a number may have. -/
  | tooLong (count : Nat)
deriving DecidableEq, Repr

namespace NumberError

/-- The most digits that a number may have. -/
def digitLimit : Nat := 4300

/-- The most characters of a quoted text that are shown. -/
def shownLimit : Nat := 200

/-- The wording of the error. -/
def message : NumberError → String
  | notWhole base text =>
    s!"invalid literal for int() with base {base}: " ++
      String.ofList ((quote text).toList.take shownLimit)
  | notReal text => "could not convert string to float: " ++ quote text
  | tooLong count =>
    s!"Exceeds the limit ({digitLimit} digits) for integer string " ++
      s!"conversion: value has {count} digits; " ++
      "use sys.set_int_max_str_digits() to increase the limit"

end NumberError

namespace Text

/-- Whether a character of ASCII is a blank between which a number may
stand. -/
def isPlainBlank (char : Char) : Bool :=
  char = ' ' || (9 ≤ char.toNat && char.toNat ≤ 13)

/-- A text with digits and blanks of all scripts replaced by plain ones. -/
def plainDigits (text : List Char) : List Char :=
  if text.all fun char => char.toNat < 128 then text
  else text.map fun char =>
    match decimalValue? char with
    | some value => Char.ofNat ('0'.toNat + value)
    | none => if isBlank char then ' ' else char

/-- The text of a number without the blanks around it. -/
def bareNumber (text : List Char) : List Char :=
  let start := (plainDigits text).dropWhile isPlainBlank
  (start.reverse.dropWhile isPlainBlank).reverse

/-- A text without its sign, and whether the sign was a minus. -/
def takeSign : List Char → Bool × List Char
  | '-' :: rest => (true, rest)
  | '+' :: rest => (false, rest)
  | text => (false, text)

/-! ## Whole numbers -/

/-- The value of a digit or letter. -/
def digitValue? (char : Char) : Option Nat :=
  if char.isDigit then some (char.toNat - '0'.toNat)
  else if char.isLower then some (char.toNat - 'a'.toNat + 10)
  else if char.isUpper then some (char.toNat - 'A'.toNat + 10)
  else none

/-- The value of a digit of a base. -/
def digitOf? (base : Nat) (char : Char) : Option Nat :=
  (digitValue? char).filter (· < base)

/-- The number that digits of a base write, most significant first. -/
def readDigits? (base : Nat) (digits : List Char) : Option Nat :=
  digits.foldl
    (fun total digit => do
      return (← total) * base + (← digitOf? base digit))
    (if digits.isEmpty then none else some 0)

/-- The letter in the mark for a base. -/
def baseLetter? (base : Nat) : Option Char :=
  if base = 16 then some 'x'
  else if base = 8 then some 'o'
  else if base = 2 then some 'b'
  else none

/-- A text without the mark for a base. -/
def passBase (base : Nat) (text : List Char) : List Char :=
  match text with
  | '0' :: letter :: rest =>
    if baseLetter? base = some letter.toLower then rest else text
  | _ => text

/-- The whole number that a text writes in a base.  In bases that are no power
of two the number of digits is limited. -/
def readWhole (base : Nat) (text : List Char) : Except NumberError Int :=
  let (isNegative, digits) := takeSign (bareNumber text)
  let digits := passBase base digits
  let count := (digits.takeWhile fun char =>
    (digitOf? base char).isSome).length
  if (baseLetter? base).isNone && NumberError.digitLimit < count then
    .error (.tooLong count)
  else
    match readDigits? base digits with
    | some number => .ok (if isNegative then -(number : Int) else number)
    | none => .error (.notWhole base (String.ofList text))

/-! ## Numbers with a point -/

/-- The digits that a text begins with, and the rest. -/
def spanDigits (text : List Char) : List Char × List Char :=
  text.span Char.isDigit

/-- How far an exponent may lie outside the digits to be of any use. -/
def farthestExponent : Nat := 1200

/-- The double that is nearest to digits with an exponent. -/
def nearestDouble (isNegative : Bool) (digits : List Char)
    (exponent : Int) : UInt64 :=
  let number := (readDigits? 10 digits).getD 0
  let magnitude := exponent + digits.length
  if number = 0 || magnitude < -(farthestExponent : Int) then
    Double.ofPattern isNegative 0
  else if farthestExponent < exponent then
    Double.ofPattern isNegative Double.infinite
  else Double.ofRatio isNegative (number * Nat.pow 10 exponent.toNat)
    (Nat.pow 10 (-exponent).toNat)

/-- The exponent at the end of a number. -/
def exponent? : List Char → Option Int
  | [] => some 0
  | mark :: rest =>
    if mark = 'e' || mark = 'E' then
      let (isNegative, digits) := takeSign rest
      (readDigits? 10 digits).map fun size =>
        if isNegative then -(size : Int) else size
    else none

/-- The double that a text without a sign and blanks writes. -/
def unsigned? (isNegative : Bool) (text : List Char) : Option UInt64 :=
  let word := String.ofList (text.map Char.toLower)
  if word = "inf" || word = "infinity" then
    some (Double.ofPattern isNegative Double.infinite)
  else if word = "nan" then some Double.notNumber
  else
    let (whole, rest) := spanDigits text
    let (part, rest) := match rest with
      | '.' :: rest => spanDigits rest
      | _ => ([], rest)
    if whole.isEmpty && part.isEmpty then none
    else (exponent? rest).map fun exponent =>
      nearestDouble isNegative (whole ++ part)
        (exponent - Int.ofNat part.length)

/-- The double that a text writes. -/
def readReal (text : List Char) : Except NumberError UInt64 :=
  let (isNegative, bare) := takeSign (bareNumber text)
  match unsigned? isNegative bare with
  | some bits => .ok bits
  | none => .error (.notReal (String.ofList text))

end Text

end CrateShelf
