/-!
# Styled text

Text for a terminal holds style codes between its visible characters.  A
style code is an escape character, a bracket, digits and semicolons, and the
letter `m`.  Reading a text as pieces separates the two, and everything else
is said of pieces: the visible width, cutting, and carrying styles over line
ends.

Main statements: the pieces of a text, written one after the other, are the
text; cutting keeps the requested number of visible characters and never cuts
a code.
-/

namespace CrateShelf.Terminal

/-- One visible character or one style code. -/
inductive Piece where
  | visible (char : Char)
  | code (text : List Char)
deriving DecidableEq, Repr

/-- The characters that a piece is written with. -/
def Piece.text : Piece → List Char
  | .visible char => [char]
  | .code text => text

/-- The visible character of a piece. -/
def Piece.visible? : Piece → Option Char
  | .visible char => some char
  | .code _ => none

/-- The style code of a piece. -/
def Piece.code? : Piece → Option (List Char)
  | .visible _ => none
  | .code text => some text

/-- The character that begins a style code. -/
def escape : Char := Char.ofNat 27

/-- Whether a character may stand between the bracket and the final letter
of a style code. -/
def isParameter (char : Char) : Bool :=
  char.isDigit || char = ';'

/-- The style code at the start of a text, and what follows it. -/
def readCode? : List Char → Option (List Char × List Char)
  | first :: '[' :: rest =>
    if first = escape then
      match rest.dropWhile isParameter with
      | 'm' :: more =>
        some (escape :: '[' :: rest.takeWhile isParameter ++ ['m'], more)
      | _ => none
    else none
  | _ => none

/-- A style code and what follows it are the whole text. -/
theorem append_of_readCode? (text code rest : List Char)
    (read : readCode? text = some (code, rest)) : code ++ rest = text := by
  unfold readCode? at read
  split at read
  · rename_i first inside
    split at read
    · rename_i isEscape
      split at read
      · rename_i more shape
        simp only [Option.some.injEq, Prod.mk.injEq] at read
        obtain ⟨rfl, rfl⟩ := read
        have whole := List.takeWhile_append_dropWhile
          (p := isParameter) (l := inside)
        rw [shape] at whole
        simp [isEscape, whole]
      · cases read
    · cases read
  · cases read

theorem code_ne_nil_of_readCode? (text code rest : List Char)
    (read : readCode? text = some (code, rest)) : code ≠ [] := by
  unfold readCode? at read
  split at read
  · split at read
    · split at read
      · simp only [Option.some.injEq, Prod.mk.injEq] at read
        rw [← read.1]
        simp
      · cases read
    · cases read
  · cases read

theorem length_lt_of_readCode? (text code rest : List Char)
    (read : readCode? text = some (code, rest)) :
    rest.length < text.length := by
  have whole := append_of_readCode? text code rest read
  have nonempty := code_ne_nil_of_readCode? text code rest read
  have positive := List.length_pos_iff.2 nonempty
  rw [← whole, List.length_append]
  omega

/-- The pieces of a text. -/
def pieces (text : List Char) : List Piece :=
  match read : readCode? text with
  | some (code, rest) => .code code :: pieces rest
  | none =>
    match text with
    | [] => []
    | char :: rest => .visible char :: pieces rest
termination_by text.length
decreasing_by
  · exact length_lt_of_readCode? text code rest read
  · simp

/-- The text that pieces are written as. -/
def written (styled : List Piece) : List Char :=
  styled.flatMap Piece.text

@[simp]
theorem written_nil : written [] = [] := rfl

@[simp]
theorem written_cons (piece : Piece) (styled : List Piece) :
    written (piece :: styled) = piece.text ++ written styled := rfl

@[simp]
theorem written_append (first second : List Piece) :
    written (first ++ second) = written first ++ written second := by
  simp [written]

/-- The pieces of a text are written as the text. -/
@[simp]
theorem written_pieces (text : List Char) : written (pieces text) = text := by
  fun_induction pieces text with
  | case1 text code rest read inductionStep =>
    rw [written_cons, inductionStep]
    exact append_of_readCode? text code rest read
  | case2 => rfl
  | case3 char rest _ inductionStep =>
    rw [written_cons, inductionStep]
    rfl

/-- The visible characters of pieces. -/
def visibleOf (styled : List Piece) : List Char :=
  styled.filterMap Piece.visible?

@[simp]
theorem visibleOf_nil : visibleOf [] = [] := rfl

@[simp]
theorem visibleOf_code (text : List Char) (rest : List Piece) :
    visibleOf (.code text :: rest) = visibleOf rest := rfl

@[simp]
theorem visibleOf_visible (char : Char) (rest : List Piece) :
    visibleOf (.visible char :: rest) = char :: visibleOf rest := rfl

/-- The style codes of pieces. -/
def codesOf (styled : List Piece) : List (List Char) :=
  styled.filterMap Piece.code?

/-- The visible characters of a text. -/
def visible (text : List Char) : List Char :=
  visibleOf (pieces text)

/-- The number of columns that a text takes. -/
def width (text : List Char) : Nat :=
  (visible text).length

/-- The pieces up to a number of visible characters, with the codes that
directly follow the last of them. -/
def takeVisible : Nat → List Piece → List Piece
  | _, [] => []
  | count, .code text :: rest => .code text :: takeVisible count rest
  | 0, .visible _ :: _ => []
  | count + 1, .visible char :: rest =>
    .visible char :: takeVisible count rest

/-- The pieces that taking leaves. -/
def dropVisible : Nat → List Piece → List Piece
  | _, [] => []
  | count, .code _ :: rest => dropVisible count rest
  | 0, .visible char :: rest => .visible char :: rest
  | count + 1, .visible _ :: rest => dropVisible count rest

@[simp]
theorem takeVisible_append_dropVisible (count : Nat) (styled : List Piece) :
    takeVisible count styled ++ dropVisible count styled = styled := by
  fun_induction takeVisible count styled with
  | case1 => simp [dropVisible]
  | case2 count text rest inductionStep =>
    simpa [dropVisible] using inductionStep
  | case3 char rest => simp [dropVisible]
  | case4 count char rest inductionStep =>
    simpa [dropVisible] using inductionStep

/-- Taking keeps as many visible characters as there are, at most the number
asked for. -/
@[simp]
theorem length_visibleOf_takeVisible (count : Nat) (styled : List Piece) :
    (visibleOf (takeVisible count styled)).length =
      min count (visibleOf styled).length := by
  fun_induction takeVisible count styled with
  | case1 => simp
  | case2 count text rest inductionStep => simpa using inductionStep
  | case3 char rest => simp
  | case4 count char rest inductionStep =>
    simp only [visibleOf_visible, List.length_cons, inductionStep]
    omega

theorem length_dropVisible_le (count : Nat) (styled : List Piece) :
    (dropVisible count styled).length ≤ styled.length := by
  fun_induction dropVisible count styled <;> simp <;> omega

/-- Leaving out at least one visible character leaves fewer pieces. -/
theorem length_dropVisible_lt (count : Nat) (styled : List Piece)
    (positive : 0 < count) (some : styled ≠ []) :
    (dropVisible count styled).length < styled.length := by
  match count, styled with
  | 0, _ => omega
  | _, [] => exact absurd rfl some
  | count + 1, .code text :: rest =>
    have shorter := length_dropVisible_le (count + 1) rest
    simp only [dropVisible, List.length_cons]
    omega
  | count + 1, .visible char :: rest =>
    have shorter := length_dropVisible_le count rest
    simp only [dropVisible, List.length_cons]
    omega

/-- A text cut to at most a number of visible characters. -/
def cut (count : Nat) (text : List Char) : List Char :=
  written (takeVisible count (pieces text))

/-! ## Styles -/

/-- The code that ends all styles. -/
def reset : List Char := [escape, '[', '0', 'm']

/-- The code with the given parameters. -/
def styleCode (parameters : String) : List Char :=
  escape :: '[' :: parameters.toList ++ ['m']

/-- A text in a style, if colours are wanted. -/
def inStyle (colored : Bool) (parameters : String) (text : List Char) :
    List Char :=
  if colored then styleCode parameters ++ text ++ reset else text

/-- The codes that are in force after a run of codes, given those before. -/
def activeAfter (active codes : List (List Char)) : List (List Char) :=
  codes.foldl
    (fun active code => if code = reset then [] else active ++ [code]) active

/-- Lines whose styles end at line ends and are taken up again on the next
line, where some styles are in force at the start. -/
def carryFrom (active : List (List Char)) :
    List (List Char) → List (List Char)
  | [] => []
  | line :: rest =>
    let opened := active.flatten ++ line
    let left := activeAfter [] (codesOf (pieces opened))
    (if left.isEmpty then opened else opened ++ reset) ::
      carryFrom left rest

/-- Lines that can each be shown alone, if colours are wanted. -/
def carryStyles (colored : Bool) (lines : List (List Char)) :
    List (List Char) :=
  if colored then carryFrom [] lines else lines

@[simp]
theorem length_carryFrom (active lines : List (List Char)) :
    (carryFrom active lines).length = lines.length := by
  induction lines generalizing active with
  | nil => rfl
  | cons line rest inductionStep => simp [carryFrom, inductionStep]

end CrateShelf.Terminal
