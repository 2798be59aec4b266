import CrateShelf.Pack.Value

/-!
# Labels

Names, versions and pieces of documentation are texts.  What is read from a
store is not checked for that, so that a label can also be any other value; it
is kept as it is.
-/

namespace CrateShelf

/-- What stands in the place of a text. -/
abbrev Label := Pack.Value

namespace Label

/-! ## Order -/

mutual

/-- Whether two labels count as the same: numbers of the same value, lists of
the same items, maps of the same entries in whatever order. -/
def isSame : Label → Label → Bool
  | .list first, .list second => areSame first second
  | .map first, .map second =>
    first.length == second.length && haveSame first second
  | .extension code first, .extension other second =>
    code == other && first == second
  | first, second => first.isSameKey second

/-- Whether two lists have the same items. -/
def areSame : List Label → List Label → Bool
  | [], [] => true
  | first :: others, second :: rest =>
    isSame first second && areSame others rest
  | _, _ => false

/-- Whether the values of some entries are found under their keys. -/
def haveSame : List (Label × Label) → List (Label × Label) → Bool
  | [], _ => true
  | (key, value) :: rest, entries =>
    (match entries.find? (·.1.isSameKey key) with
      | some (_, other) => isSame value other
      | none => false) &&
      haveSame rest entries

end

/-- Where a number stands: below, among or above the fractions, and at which
fraction.  What is no number, though it is a double, stands nowhere. -/
def amount? : Label → Option (Option (Int × Int × Nat))
  | .bool flag => some (some (0, flag.toInt, 1))
  | .int number => some (some (0, number, 1))
  | .real bits =>
    some <|
      match Double.toRatio? bits with
      | some (upper, lower) => some (0, upper, lower)
      | none =>
        if bits.toNat = Double.infinite then some (1, 0, 1)
        else if bits.toNat = Double.signBit + Double.infinite then
          some (-1, 0, 1)
        else none
  | _ => none

/-- The order of two numbers.  What stands nowhere comes before and after
everything. -/
def orderAmounts : Option (Int × Int × Nat) → Option (Int × Int × Nat) →
    Ordering
  | some (side, upper, lower), some (otherSide, top, bottom) =>
    (compareOfLessAndEq side otherSide).then
      (compareOfLessAndEq (upper * bottom) (top * lower))
  | _, _ => .lt

/-- The order of two texts: that of the first code points that are not the
same. -/
def orderPoints (first second : WideText) : Ordering :=
  compareOfLessAndEq (first.points.map CodePoint.number)
    (second.points.map CodePoint.number)

/-- An order that is told by a second one where the first finds two things
the same. -/
def orElse (first second : Option Ordering) : Option Ordering :=
  match first with
  | some .eq => second
  | other => other

mutual

/-- The order of two labels of one type, numbers being of one; labels of
different types have none, nor have maps or extensions that are not the
same. -/
def order? : Label → Label → Option Ordering
  | .null, .null => some .eq
  | .text first, .text second => some (compareOfLessAndEq first second)
  | .torn first, .torn second =>
    some (orderPoints (.torn first) (.torn second))
  | .torn first, .text second =>
    some (orderPoints (.torn first) (.whole second))
  | .text first, .torn second =>
    some (orderPoints (.whole first) (.torn second))
  | .bytes first, .bytes second => some (compareOfLessAndEq first second)
  | .time first, .time second =>
    some ((compareOfLessAndEq first.seconds second.seconds).then
      (compareOfLessAndEq first.millionths second.millionths))
  | .list first, .list second => orderItems? first second
  | .map first, .map second =>
    if isSame (.map first) (.map second) then some .eq else none
  | .extension code first, .extension other second =>
    if isSame (.extension code first) (.extension other second) then some .eq
    else none
  | first, second =>
    match amount? first, amount? second with
    | some amount, some other => some (orderAmounts amount other)
    | _, _ => none

/-- The order of two lists: that of the first items that are not the same. -/
def orderItems? : List Label → List Label → Option Ordering
  | [], [] => some .eq
  | [], _ :: _ => some .lt
  | _ :: _, [] => some .gt
  | first :: others, second :: rest =>
    orElse (order? first second) (orderItems? others rest)

end

/-- Whether a label can be told apart from others without a look into it. -/
def isAtomic : Label → Bool
  | .list _ | .map _ | .extension _ _ => false
  | _ => true

@[simp]
theorem order?_text (first second : String) :
    order? (.text first) (.text second) =
      some (compareOfLessAndEq first second) := rfl

end Label

end CrateShelf
