import CrateShelf.Text.Quoted
import CrateShelf.Text.Split

/-!
# File names of items

An item's name becomes one component of a file path.  Every character below
U+0100 that is not an ASCII letter or digit is written as `%x`, two capital
hexadecimal digits and a semicolon; all others stand for themselves.

Main statement: reading a written name gives the name back.
-/

namespace CrateShelf.FileName

/-- A per cent sign that does not start an escape, and where it stands. -/
structure DecodeError where
  offset : Nat
  name : String
deriving DecidableEq, Repr

/-- The wording of the error. -/
def DecodeError.message (error : DecodeError) : String :=
  s!"Malformed escape at offset {error.offset} in " ++ quote error.name

/-- Whether a character stands for itself in a file name. -/
def isPlain (char : Char) : Bool :=
  256 ≤ char.toNat || char.isAlphanum

/-- A hexadecimal digit in capitals. -/
def hexDigit (value : Nat) : Char :=
  if value < 10 then Char.ofNat (48 + value) else Char.ofNat (55 + value)

/-- The value of a hexadecimal digit. -/
def hexValue? (char : Char) : Option Nat :=
  if '0' ≤ char ∧ char ≤ '9' then some (char.toNat - 48)
  else if 'A' ≤ char ∧ char ≤ 'F' then some (char.toNat - 55)
  else if 'a' ≤ char ∧ char ≤ 'f' then some (char.toNat - 87)
  else none

/-- The written form of one character. -/
def encodeChar (char : Char) : List Char :=
  if isPlain char then [char]
  else
    ['%', 'x', hexDigit (char.toNat / 16), hexDigit (char.toNat % 16), ';']

/-- The written form of a name. -/
def encodeChars (name : List Char) : List Char :=
  name.flatMap encodeChar

/-- Reads a written name from an offset on; a failure gives the offset of
the escape that is malformed. -/
def decodeFrom : Nat → List Char → Except Nat (List Char)
  | _, [] => .ok []
  | offset, '%' :: rest =>
    match rest with
    | 'x' :: high :: low :: ';' :: after =>
      match hexValue? high, hexValue? low with
      | some upper, some lower =>
        (decodeFrom (offset + 5) after).map
          (Char.ofNat (upper * 16 + lower) :: ·)
      | _, _ => .error offset
    | _ => .error offset
  | offset, char :: rest =>
    (decodeFrom (offset + 1) rest).map (char :: ·)

/-- Reads a written name. -/
def decodeChars (written : List Char) : Except Nat (List Char) :=
  decodeFrom 0 written

/-- The written form of a name. -/
def encode (name : String) : String :=
  String.ofList (encodeChars name.toList)

/-- The name with a written form. -/
def decode (written : String) : Except DecodeError String :=
  match decodeChars written.toList with
  | .ok name => .ok (String.ofList name)
  | .error offset => .error ⟨offset, written⟩

end CrateShelf.FileName
