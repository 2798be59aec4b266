import CrateShelf.Text.Casing

/-!
# Matching a query against a line

A query matches a line when its characters occur in the line in the same
order, whatever stands between them and whatever their case.  The score of a
match looks at the shortest window of the line that holds the query: the
share of the window that the query fills, divided by the length of the line.
-/

namespace CrateShelf.Finder

/-- A stretch of a line, from `start` up to but not including `stop`. -/
structure Window where
  start : Nat
  stop : Nat
deriving DecidableEq, Repr, Inhabited

/-- The length of a window. -/
def Window.size (window : Window) : Nat :=
  window.stop - window.start

/-- How many characters of a line are read until all characters of the query
have been met in order, taking each as early as possible. -/
def reach : List Char → List Char → Option Nat
  | [], _ => some 0
  | _ :: _, [] => none
  | wanted :: query, char :: line =>
    (if wanted = char then reach query line
      else reach (wanted :: query) line).map (· + 1)

/-- The better of two windows: the shorter one, and of two equally short
ones the first. -/
def Window.shorter (best : Option Window) (window : Window) : Window :=
  match best with
  | none => window
  | some known => if window.size < known.size then window else known

/-- The shortest window of the rest of a line that starts with the query's
first character, given the best one so far and the offset of the rest. -/
def windowFrom (first : Char) (query : List Char) :
    Option Window → Nat → List Char → Option Window
  | best, _, [] => best
  | best, offset, char :: line =>
    if char = first then
      match reach query line with
      | none => best
      | some count =>
        windowFrom first query
          (some (Window.shorter best ⟨offset, offset + 1 + count⟩))
          (offset + 1) line
    else windowFrom first query best (offset + 1) line

/-- The shortest window that holds the query, the first of several; the
query is given by its first character and the others. -/
def bestWindow (first : Char) (query line : List Char) : Option Window :=
  windowFrom first query none 0 line

/-- The shortest window that holds a query; an empty query has no first
character to look for. -/
def bestWindow? (query line : List Char) : Option (Option Window) :=
  match query with
  | [] => none
  | first :: rest => some (bestWindow first rest line)

/-- The quality of a match and where its window starts.  The quality is kept
as the bit pattern of a double that is not negative; such patterns are
ordered as the numbers are. -/
structure Score where
  quality : UInt64
  start : Nat
deriving DecidableEq, Repr, Inhabited

/-- The pattern of the double nearest to the first number over the second,
divided again by the third. -/
def qualityBits (filled window line : Nat) : UInt64 :=
  ((filled.toFloat / window.toFloat) / line.toFloat).toBits

/-- The score of a line against a query, if it matches.  An empty query
matches every line perfectly. -/
def score? (query line : String) : Option Score :=
  match query.toList, line.toList with
  | [], _ => some ⟨(1 : Float).toBits, 0⟩
  | _, [] => none
  | wanted, text =>
    match bestWindow? (Text.lower wanted) (Text.lower text) with
    | some (some window) =>
      some ⟨qualityBits wanted.length window.size text.length, window.start⟩
    | _ => none

/-- Whether a line matches a query. -/
def isMatch (query line : String) : Bool :=
  (score? query line).isSome

@[simp]
theorem reach_nil (line : List Char) : reach [] line = some 0 := by
  cases line <;> rfl

@[simp]
theorem reach_cons_nil (wanted : Char) (query : List Char) :
    reach (wanted :: query) [] = none := rfl

/-- The reach of a query lies within the line. -/
theorem reach_le_length (query line : List Char) (count : Nat)
    (reached : reach query line = some count) : count ≤ line.length := by
  induction line generalizing query count with
  | nil =>
    cases query with
    | nil => simp_all
    | cons wanted query => simp at reached
  | cons char line inductionStep =>
    cases query with
    | nil => simp_all; omega
    | cons wanted query =>
      simp only [reach] at reached
      split at reached <;>
      · obtain ⟨inner, found, rfl⟩ := Option.map_eq_some_iff.1 reached
        have bound := inductionStep _ _ found
        simp only [List.length_cons]
        omega

end CrateShelf.Finder
