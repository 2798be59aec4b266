import CrateShelf.Text.Number
import CrateShelf.Text.Split

/-!
# Versions

A version is compared by its key: the numbers before the first hyphen, then
whether it is a release, then the text after the hyphen.  Build metadata,
from the first plus sign on, does not count.  A part between dots that is not
made of digits counts as zero.
-/

namespace CrateShelf

/-- What a version is compared by. -/
structure VersionKey where
  numbers : List Nat
  isRelease : Bool
  preRelease : String
deriving DecidableEq, Repr

namespace VersionKey

/-- The number that a part of a version stands for. -/
def readNumber (part : List Char) : Except NumberError Nat :=
  if part.isEmpty || !part.all Text.isDigit then .ok 0
  else
    let leading := (part.takeWhile Text.isDecimal).length
    if NumberError.digitLimit < leading then .error (.tooLong leading)
    else
      match Text.readDecimal? part with
      | some number => .ok number
      | none => .error (.notWhole 10 (String.ofList part))

/-- The key of a version. -/
def ofVersion (version : String) : Except NumberError VersionKey := do
  let core := (Text.cutFirst '+' version.toList).1
  let cut := Text.cutFirst '-' core
  let numbers ← (Text.splitAt '.' cut.1).mapM readNumber
  let preRelease := cut.2.getD []
  return {
    numbers
    isRelease := preRelease.isEmpty
    preRelease := String.ofList preRelease }

/-- Keys are compared number by number, a shorter list of numbers coming
first; then a pre-release comes before its release; then the texts of the
pre-releases decide. -/
def compare (first second : VersionKey) : Ordering :=
  (compareOfLessAndEq first.numbers second.numbers).then
    ((Ord.compare first.isRelease second.isRelease).then
      (compareOfLessAndEq first.preRelease second.preRelease))

/-- Whether a key ranks strictly above another. -/
def newer (first second : VersionKey) : Bool :=
  first.compare second == .gt

/-- Whether a key ranks at most as high as another. -/
def atMost (first second : VersionKey) : Bool :=
  first.compare second != .gt

end VersionKey

/-- The versions in ascending order; versions of equal rank keep their
order. -/
def sortVersions (versions : List String) :
    Except NumberError (List String) := do
  let keyed ← versions.mapM fun version =>
    return (← VersionKey.ofVersion version, version)
  return (keyed.mergeSort fun first second =>
    first.1.atMost second.1).map (·.2)

end CrateShelf
