import CrateShelf.Terminal.Styled
import CrateShelf.Text.Blank

/-!
# Filling lines with words

Words go on a line as long as they fit.  A word that is wider than a whole
line is cut.  The first line has a lead of its own, all later lines share
another.
-/

namespace CrateShelf.Terminal

/-- Cuts pieces into stretches of a number of columns; the last stretch,
which is given apart, is not wider than that. -/
def chop (room : Nat) (styled : List Piece) :
    List (List Piece) × List Piece :=
  if h : 0 < room ∧ room < (visibleOf styled).length then
    let (done, last) := chop room (dropVisible room styled)
    (takeVisible room styled :: done, last)
  else ([], styled)
termination_by styled.length
decreasing_by
  apply length_dropVisible_lt _ _ h.1
  intro empty
  simp [empty, visibleOf] at h

/-- Cuts a word into a stretch for the line at hand and stretches for later
lines; the last stretch is given apart. -/
def chopWord (room later : Nat) (word : List Char) :
    List (List Char) × List Char :=
  let styled := pieces word
  if room < (visibleOf styled).length then
    let (done, last) := chop later (dropVisible room styled)
    ((takeVisible room styled :: done).map written, written last)
  else ([], word)

/-- The lines of the words that follow the text of a line begun. -/
def fill (columns : Nat) (later : List Char) (lead current : List Char) :
    List (List Char) → List (List Char)
  | [] => [lead ++ current]
  | word :: rest =>
    if !current.isEmpty &&
        width lead + width current + 1 + width word ≤ columns then
      fill columns later lead (current ++ ' ' :: word) rest
    else
      let (finished, lead) :=
        if current.isEmpty then ([], lead) else ([lead ++ current], later)
      let (stretches, last) :=
        chopWord (columns - width lead) (columns - width later) word
      match stretches with
      | [] => finished ++ fill columns later lead last rest
      | first :: more =>
        finished ++ (lead ++ first) :: more.map (later ++ ·) ++
          fill columns later later last rest

/-- The lines of a text in a number of columns, raised so that something
fits beside each lead; so a number below zero is as good as none. -/
def wrap (columns : Int) (first later text : List Char) :
    List (List Char) :=
  let columns := max columns.toNat (max (width first + 1) (width later + 1))
  fill columns later first [] (Text.words text)

/-- There is always a line. -/
theorem fill_ne_nil (columns : Nat) (later lead current : List Char)
    (words : List (List Char)) :
    fill columns later lead current words ≠ [] := by
  induction words generalizing lead current with
  | nil => simp [fill]
  | cons word rest inductionStep =>
    unfold fill
    split
    · exact inductionStep lead (current ++ ' ' :: word)
    · dsimp only
      split <;> simp [inductionStep]

end CrateShelf.Terminal
