/-!
# Edit distance

The least number of insertions, deletions and substitutions of single
characters that turn one text into another.  The distances from the growing
beginnings of the longer text to all beginnings of the shorter one are kept as
a row and computed row by row.
-/

namespace CrateShelf.Finder

/-- Completes a row to the right of the distance `left`, for a character of
the longer text; the row before is read along. -/
def fillRow (char : Char) : Nat → List Char → List Nat → List Nat
  | left, target :: targets, diagonal :: above :: previous =>
    let distance :=
      min (min (above + 1) (left + 1))
        (diagonal + if char = target then 0 else 1)
    distance :: fillRow char distance targets (above :: previous)
  | _, _, _ => []

/-- The row after one more character of the longer text. -/
def nextRow (shorter : List Char) (previous : List Nat) (char : Char) :
    List Nat :=
  match previous with
  | [] => []
  | first :: _ => (first + 1) :: fillRow char (first + 1) shorter previous

/-- The row of the empty beginning: each beginning of the shorter text is as
far away as it is long. -/
def firstRow (shorter : List Char) : List Nat :=
  List.range (shorter.length + 1)

/-- The row after all characters of the longer text. -/
def lastRow (longer shorter : List Char) : List Nat :=
  longer.foldl (nextRow shorter) (firstRow shorter)

/-- The distance of a text from one that is not longer. -/
def distanceFrom (longer shorter : List Char) : Nat :=
  if shorter.isEmpty then longer.length
  else (lastRow longer shorter).getLast?.getD 0

/-- The edit distance of two texts given as characters. -/
def distance (first second : List Char) : Nat :=
  if first.length < second.length then distanceFrom second first
  else distanceFrom first second

/-- The edit distance of two texts. -/
def editDistance (first second : String) : Nat :=
  distance first.toList second.toList

end CrateShelf.Finder
