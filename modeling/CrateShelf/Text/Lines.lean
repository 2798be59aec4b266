import CrateShelf.Text.Split

/-!
# Lines and tabs

Lines end at a line feed only.  A tab moves to the next column that is a
multiple of the tab width; columns start again after a line feed or a return.
-/

namespace CrateShelf.Text

/-- The lines of a text. -/
def lines (text : List Char) : List (List Char) :=
  splitAt '\n' text

/-- The lines, one line feed between each two. -/
def unlines (parts : List (List Char)) : List Char :=
  ['\n'].intercalate parts

/-- A text without the line feeds at its end. -/
def dropLineEnds (text : List Char) : List Char :=
  (text.reverse.dropWhile (· = '\n')).reverse

/-- A text with a line feed for each sort of line end. -/
def unifyLineEnds : List Char → List Char
  | [] => []
  | '\r' :: '\n' :: rest => '\n' :: unifyLineEnds rest
  | '\r' :: rest => '\n' :: unifyLineEnds rest
  | char :: rest => char :: unifyLineEnds rest

/-- A text with its tabs replaced by spaces, from a column on. -/
def expandTabsFrom (width : Nat) : Nat → List Char → List Char
  | _, [] => []
  | column, char :: rest =>
    if char = '\t' then
      let gap := if width = 0 then 0 else width - column % width
      List.replicate gap ' ' ++ expandTabsFrom width (column + gap) rest
    else if char = '\n' ∨ char = '\r' then
      char :: expandTabsFrom width 0 rest
    else char :: expandTabsFrom width (column + 1) rest

/-- A text with its tabs replaced by spaces. -/
def expandTabs (width : Nat) (text : List Char) : List Char :=
  expandTabsFrom width 0 text

@[simp]
theorem unlines_lines (text : List Char) : unlines (lines text) = text :=
  intercalate_splitAt '\n' text

end CrateShelf.Text
