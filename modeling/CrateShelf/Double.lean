/-!
# Doubles

A double is given by its bit pattern.  Its value is a fraction, and for every
fraction there is a nearest double.

The text of a double has the fewest digits that read back as the same double;
of several such decimals it is the nearest.  Numbers from a ten-thousandth up
to ten to the sixteenth are written positionally, with at least one place, the
others with an exponent of at least two digits.
-/

namespace CrateShelf.Double

/-- A positive double: its value is `mantissa * 2 ^ exponent`. -/
structure Binary where
  mantissa : Nat
  exponent : Int
  /-- Whether the next smaller double is only half a step away. -/
  atBoundary : Bool
deriving Repr

/-- A positive double by its bit pattern without the sign. -/
def Binary.ofPattern (pattern : Nat) : Binary :=
  let fraction := pattern % Nat.pow 2 52
  let biased : Nat := pattern / Nat.pow 2 52
  if biased = 0 then ⟨fraction, -1074, false⟩
  else
    ⟨fraction + Nat.pow 2 52, Int.ofNat biased - 1075,
      fraction == 0 && biased != 1⟩

/-- A decimal: its value is `digits * 10 ^ exponent`. -/
structure Decimal where
  digits : Nat
  exponent : Int
deriving Repr

/-- Whether a decimal reads back as the double: it lies no farther away than
half the distance to the next double, and on the very border only if the
mantissa is even.  Both sides are scaled to whole numbers. -/
def Binary.readsBack (binary : Binary) (decimal : Decimal) : Bool :=
  let twos := binary.exponent - 2
  let scale (value : Nat) (base : Nat) (power : Int) : Nat :=
    value * Nat.pow base power.toNat
  let value := scale (scale (4 * binary.mantissa) 2 twos) 10 (-decimal.exponent)
  let half := scale (scale 2 2 twos) 10 (-decimal.exponent)
  let lower := if binary.atBoundary then half / 2 else half
  let tried := scale (scale decimal.digits 10 decimal.exponent) 2 (-twos)
  if binary.mantissa % 2 = 0 then
    value ≤ tried + lower && tried ≤ value + half
  else value < tried + lower && tried < value + half

/-- The two neighbours of the double on the grid of a power of ten, the
nearer one first. -/
def Binary.neighbours (binary : Binary) (exponent : Int) : List Decimal :=
  let upper := binary.mantissa * Nat.pow 2 binary.exponent.toNat *
    Nat.pow 10 (-exponent).toNat
  let lower := Nat.pow 2 (-binary.exponent).toNat * Nat.pow 10 exponent.toNat
  let below := upper / lower
  let rest := upper % lower
  let both := [⟨below, exponent⟩, ⟨below + 1, exponent⟩]
  if 2 * rest < lower || (2 * rest = lower && below % 2 = 0) then both
  else both.reverse

/-- The largest power of ten that is at most the double, looked for upward
from the smallest one that any double can have. -/
def Binary.magnitude (binary : Binary) : Int :=
  let reaches (power : Int) : Bool :=
    Nat.pow 10 power.toNat * Nat.pow 2 (-binary.exponent).toNat ≤
      binary.mantissa * Nat.pow 2 binary.exponent.toNat *
        Nat.pow 10 (-power).toNat
  let powers := (List.range 640).filter fun (step : Nat) =>
    reaches (Int.ofNat step - 330)
  Int.ofNat (powers.getLast?.getD 0) - 330

/-- The shortest decimal that reads back as the double. -/
def Binary.shortest (binary : Binary) : Decimal :=
  let magnitude := binary.magnitude
  let tried := (List.range 17).flatMap fun (count : Nat) =>
    binary.neighbours (magnitude - Int.ofNat count)
  (tried.find? binary.readsBack).getD ⟨0, 0⟩

/-- The digits without the zeros at their end. -/
def stripZeros (digits : List Char) : List Char :=
  (digits.reverse.dropWhile (· = '0')).reverse

/-- The text of a positive decimal. -/
def Decimal.toText (decimal : Decimal) : String :=
  let digits := Nat.toDigits 10 decimal.digits
  let point : Int := digits.length + decimal.exponent
  let digits := stripZeros digits
  if -4 < point ∧ point ≤ 16 then
    if point ≤ 0 then
      "0." ++ String.ofList (List.replicate (-point).toNat '0' ++ digits)
    else
      let filled := digits ++ List.replicate (point.toNat - digits.length) '0'
      let places := filled.drop point.toNat
      String.ofList (filled.take point.toNat) ++ "." ++
        (if places.isEmpty then "0" else String.ofList places)
  else
    let power := point - 1
    let shown := Nat.toDigits 10 power.natAbs
    let shown := if shown.length < 2 then '0' :: shown else shown
    let mantissa := match digits with
      | [] => ['0']
      | [digit] => [digit]
      | digit :: rest => digit :: '.' :: rest
    String.ofList mantissa ++ (if power < 0 then "e-" else "e+") ++
      String.ofList shown

/-- The text of the double with a bit pattern. -/
def toText (bits : UInt64) : String :=
  let isNegative := Nat.pow 2 63 ≤ bits.toNat
  let pattern := bits.toNat % Nat.pow 2 63
  if 2047 * Nat.pow 2 52 < pattern then "nan"
  else
    let size :=
      if pattern = 2047 * Nat.pow 2 52 then "inf"
      else if pattern = 0 then "0.0"
      else (Binary.ofPattern pattern).shortest.toText
    if isNegative then "-" ++ size else size

/-! ## Values -/

/-- The bit pattern of the sign. -/
def signBit : Nat := Nat.pow 2 63

/-- The pattern of infinity. -/
def infinite : Nat := 2047 * Nat.pow 2 52

/-- The double that is no number. -/
def notNumber : UInt64 := UInt64.ofNat (infinite + Nat.pow 2 51)

/-- The double with a pattern and a sign. -/
def ofPattern (isNegative : Bool) (pattern : Nat) : UInt64 :=
  UInt64.ofNat (if isNegative then signBit + pattern else pattern)

/-- The double with the other sign. -/
def negate (bits : UInt64) : UInt64 :=
  ofPattern (bits.toNat < signBit) (bits.toNat % signBit)

/-- Whether a double is zero. -/
def isZero (bits : UInt64) : Bool := bits.toNat % signBit = 0

/-- The value of a double as a fraction, unless it is infinite or no
number. -/
def toRatio? (bits : UInt64) : Option (Int × Nat) :=
  let pattern := bits.toNat % signBit
  if infinite ≤ pattern then none
  else
    let binary := Binary.ofPattern pattern
    let size := binary.mantissa * Nat.pow 2 binary.exponent.toNat
    some (if signBit ≤ bits.toNat then -(size : Int) else size,
      Nat.pow 2 (-binary.exponent).toNat)

/-- The whole number that a double is. -/
def toInt? (bits : UInt64) : Option Int :=
  match toRatio? bits with
  | some (upper, lower) =>
    if upper % lower = 0 then some (upper / lower) else none
  | none => none

/-- The least natural number that is no less than a double; one beyond all
doubles for infinity. -/
def ceiling (bits : UInt64) : Nat :=
  match toRatio? bits with
  | some (upper, lower) => (-(Int.fdiv (-upper) lower)).toNat
  | none => if bits.toNat = infinite then Nat.pow 2 1024 else 0

/-- Whether a double is less than a natural number. -/
def isBelow (bits : UInt64) (number : Nat) : Bool :=
  match toRatio? bits with
  | some (upper, lower) => upper < number * lower
  | none => bits.toNat = signBit + infinite

/-- A fraction rounded to a whole number; a half goes to the even
neighbour. -/
def roundRatio (upper lower : Nat) : Nat :=
  let below := upper / lower
  let rest := 2 * (upper % lower)
  if rest < lower || (rest = lower && below % 2 = 0) then below
  else below + 1

/-- The pattern of the double that is nearest to a fraction.  The exponent is
so chosen that the mantissa has as many digits as it can have. -/
def nearest (upper lower : Nat) : Nat :=
  if upper = 0 then 0
  else
    let shifted (exponent : Int) : Nat × Nat :=
      (upper * Nat.pow 2 (-exponent).toNat, lower * Nat.pow 2 exponent.toNat)
    let start := Int.ofNat (Nat.log2 upper) - Int.ofNat (Nat.log2 lower) - 53
    let (top, bottom) := shifted start
    let fitting := if top / bottom < Nat.pow 2 53 then start else start + 1
    let exponent := max fitting (-1074)
    let (top, bottom) := shifted exponent
    let mantissa := roundRatio top bottom
    let pattern := mantissa + (exponent + 1074).toNat * Nat.pow 2 52
    min pattern infinite

/-- The double that is nearest to a fraction with a sign. -/
def ofRatio (isNegative : Bool) (upper lower : Nat) : UInt64 :=
  ofPattern isNegative (nearest upper lower)

/-- The double that is nearest to a fraction. -/
def ofFraction (upper : Int) (lower : Nat) : UInt64 :=
  ofRatio (upper < 0) upper.natAbs lower

/-- The sum of two doubles. -/
def add (first second : UInt64) : UInt64 :=
  match toRatio? first, toRatio? second with
  | some (upper, lower), some (top, bottom) =>
    ofFraction (upper * bottom + top * lower) (lower * bottom)
  | _, _ => notNumber

/-- A double a number of times. -/
def scale (bits : UInt64) (count : Nat) : UInt64 :=
  match toRatio? bits with
  | some (upper, lower) => ofFraction (upper * count) lower
  | none => bits

/-- A half goes to the even neighbour. -/
example : roundRatio 5 2 = 2 ∧ roundRatio 7 2 = 4 := by decide

end CrateShelf.Double
