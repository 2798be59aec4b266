import CrateShelf.Text.Split
import CrateShelf.Text.Wide

/-!
# String literals in attributes

The value of an attribute is written as a string literal, plain or raw.  A
raw literal means its text; in a plain one the escapes are read.  An escape
that is not known stands for itself, and so does a value that is no string
literal at all.  An escape by a number can be half of a surrogate pair.

Main statement: a text without escapes, put between quotes, is read as
itself.
-/

namespace CrateShelf.Docs

/-- Why a string literal has no value. -/
inductive LiteralError where
  /-- The number of an escaped character is beyond the last code point. -/
  | codePointTooLarge
deriving DecidableEq, Repr

/-- The wording of the failure. -/
def LiteralError.message : LiteralError → String
  | .codePointTooLarge => "chr() arg not in range(0x110000)"

/-- The character that a letter after a backslash stands for. -/
def simpleEscape? : Char → Option Char
  | 'n' => some '\n'
  | 'r' => some '\r'
  | 't' => some '\t'
  | '\\' => some '\\'
  | '0' => some (Char.ofNat 0)
  | '\'' => some '\''
  | '"' => some '"'
  | _ => none

/-- The value of a hexadecimal digit. -/
def hexValue? (char : Char) : Option Nat :=
  let code := char.toNat
  if 48 ≤ code ∧ code ≤ 57 then some (code - 48)
  else if 97 ≤ code ∧ code ≤ 102 then some (code - 87)
  else if 65 ≤ code ∧ code ≤ 70 then some (code - 55)
  else none

/-- The number written by hexadecimal digits, of which there may be none. -/
def readHex? (digits : List Char) : Option Nat :=
  digits.foldl
    (fun total digit => do return (← total) * 16 + (← hexValue? digit))
    (some 0)

/-- The code point that an escape by a number stands for. -/
def pointOfNumber (number : Nat) : Except LiteralError CodePoint :=
  match CodePoint.ofNumber? number with
  | some point => return point
  | none => throw .codePointTooLarge

/-- Whether a character is skipped after a line that is continued. -/
def isContinuationBlank (char : Char) : Bool :=
  char = ' ' || char = '\t' || char = '\r' || char = '\n'

/-- The number of two hexadecimal digits, and what is left. -/
def shortNumber? : List Char → Option (Nat × List Char)
  | high :: low :: rest => do return (← readHex? [high, low], rest)
  | _ => none

/-- The number of one to six hexadecimal digits between braces, with
underscores anywhere among them, and what is left. -/
def longNumber? : List Char → Option (Nat × List Char)
  | '\x7b' :: inner =>
    match Text.cutFirst '\x7d' inner with
    | (_, none) => none
    | (written, some rest) =>
      let digits := written.filter (· != '_')
      if 1 ≤ digits.length ∧ digits.length ≤ 6 then do
        return (← readHex? digits, rest)
      else none
  | _ => none

theorem length_le_of_shortNumber? (text rest : List Char) (number : Nat)
    (read : shortNumber? text = some (number, rest)) :
    rest.length ≤ text.length := by
  unfold shortNumber? at read
  split at read
  · simp only [bind, pure, Option.bind_eq_some_iff, Option.some.injEq,
      Prod.mk.injEq] at read
    obtain ⟨_, _, _, rfl⟩ := read
    simp only [List.length_cons]
    omega
  · cases read

theorem length_le_of_longNumber? (text rest : List Char) (number : Nat)
    (read : longNumber? text = some (number, rest)) :
    rest.length ≤ text.length := by
  unfold longNumber? at read
  split at read
  · split at read
    · cases read
    · rename_i cut
      dsimp only at read
      split at read
      · simp only [bind, pure, Option.bind_eq_some_iff, Option.some.injEq,
          Prod.mk.injEq] at read
        obtain ⟨_, _, _, rfl⟩ := read
        exact Nat.le_succ_of_le (Text.length_le_of_cutFirst _ _ _ _ cut)
      · cases read
  · cases read

/-- The meaning of the characters after a backslash, and what is left. -/
def readEscape (next : Char) (rest : List Char) :
    Except LiteralError (List CodePoint × { left : List Char //
      left.length ≤ rest.length }) :=
  let verbatim := ([.char '\\', .char next], ⟨rest, Nat.le_refl _⟩)
  match simpleEscape? next with
  | some char => return ([.char char], ⟨rest, Nat.le_refl _⟩)
  | none =>
    if next = 'x' then
      match read : shortNumber? rest with
      | some (number, left) =>
        return ([.char (Char.ofNat number)],
          ⟨left, length_le_of_shortNumber? rest left number read⟩)
      | none => return verbatim
    else if next = 'u' then
      match read : longNumber? rest with
      | some (number, left) => do
        let point ← pointOfNumber number
        return ([point],
          ⟨left, length_le_of_longNumber? rest left number read⟩)
      | none => return verbatim
    else if next = '\n' then
      return ([], ⟨rest.dropWhile isContinuationBlank,
        Text.length_dropWhile_le _ _⟩)
    else return verbatim

/-- The code points of a text with its escapes replaced by their meaning. -/
def unescape : List Char → Except LiteralError (List CodePoint)
  | [] => return []
  | char :: next :: rest =>
    if char = '\\' then
      match readEscape next rest with
      | .error problem => throw problem
      | .ok (meaning, ⟨left, _⟩) => do return meaning ++ (← unescape left)
    else do return .char char :: (← unescape (next :: rest))
  | [char] => return [.char char]
termination_by text => text.length
decreasing_by
  · simp only [List.length_cons]
    omega
  · simp

/-- The text of a raw string literal: an `r`, any number of hash signs and a
quote, closed by a quote and as many hash signs. -/
def rawText? (literal : List Char) : Option (List Char) :=
  match literal with
  | 'r' :: rest =>
    let hashes := rest.takeWhile (· = '#')
    match rest.dropWhile (· = '#') with
    | '"' :: body =>
      let closing := '"' :: hashes
      if closing.isSuffixOf body then
        some (body.take (body.length - closing.length))
      else none
    | _ => none
  | _ => none

/-- The text between two quotes. -/
def quotedText? (literal : List Char) : Option (List Char) :=
  match literal with
  | '"' :: rest =>
    if rest.getLast? = some '"' then some rest.dropLast else none
  | _ => none

/-- The code points of the value of an attribute as it is written. -/
def literalValue (written : List Char) :
    Except LiteralError (List CodePoint) :=
  let literal := Text.trim written
  match rawText? literal with
  | some text => return text.map .char
  | none =>
    match quotedText? literal with
    | some text => unescape text
    | none => return literal.map .char

/-- A text without backslashes has no escapes. -/
theorem unescape_eq_self (text : List Char) (plain : '\\' ∉ text) :
    unescape text = .ok (text.map .char) := by
  fun_induction unescape text with
  | case1 => rfl
  | case2 next rest problem read => simp at plain
  | case3 next rest meaning left shorter read inductionStep =>
    simp at plain
  | case4 char next rest other inductionStep =>
    rw [inductionStep (by simp_all)]
    rfl
  | case5 char => rfl

end CrateShelf.Docs
