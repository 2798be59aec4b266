import CrateShelf.Bytes
import CrateShelf.Text.Blank
import CrateShelf.Text.Quoted

/-!
# Wide texts

An escape can name any code point, also one that is no character but half of
a surrogate pair.  A text with such a half can be handled but not encoded, so
that it can neither be stored nor be the name of a file, unless the half
stands for a raw byte of the name.

Main statement: a text is torn exactly if a half is among its code points.
-/

namespace CrateShelf

/-! ## Code points -/

/-- A code point: a character, or half of a surrogate pair by its number among
the halves. -/
inductive CodePoint where
  | char (letter : Char)
  | half (index : Fin 2048)
deriving DecidableEq, Repr, Inhabited

namespace CodePoint

/-- The number of the first half. -/
def firstHalf : Nat := 0xD800

/-- The number of a code point. -/
def number : CodePoint → Nat
  | char letter => letter.toNat
  | half index => firstHalf + index

/-- The code point with a number; there is none beyond the last. -/
def ofNumber? (number : Nat) : Option CodePoint :=
  if number ≥ 0x110000 then none
  else if within : firstHalf ≤ number ∧ number < firstHalf + 2048 then
    some (half ⟨number - firstHalf, by omega⟩)
  else some (char (Char.ofNat number))

/-- Only numbers beyond the last code point have none. -/
theorem ofNumber?_eq_none_iff (number : Nat) :
    ofNumber? number = none ↔ 0x110000 ≤ number := by
  unfold ofNumber?
  split
  · simpa
  · split <;> simpa using ‹¬ number ≥ 0x110000›

/-- The number of a character is that of the character. -/
theorem ofNumber?_toNat (letter : Char) :
    ofNumber? letter.toNat = some (char letter) := by
  have valid : letter.toNat < 0xD800 ∨
      0xDFFF < letter.toNat ∧ letter.toNat < 0x110000 := letter.valid
  have noHalf :
      ¬ (firstHalf ≤ letter.toNat ∧ letter.toNat < firstHalf + 2048) := by
    unfold firstHalf
    omega
  rw [ofNumber?, if_neg (by omega), dif_neg noHalf, Char.ofNat_toNat]

/-- Whether a code point is half of a pair. -/
def isHalf : CodePoint → Bool
  | char _ => false
  | half _ => true

/-- Whether a code point is a blank. -/
def isBlank : CodePoint → Bool
  | char letter => Text.isBlank letter
  | half _ => false

/-- The character that a code point is. -/
def char? : CodePoint → Option Char
  | char letter => some letter
  | half _ => none

/-- A code point as it stands between two quotes. -/
def escape (quote : Char) : CodePoint → List Char
  | char letter => Text.escapeChar quote letter
  | half index => '\\' :: 'u' :: Text.hexDigits 4 (firstHalf + index)

/-- A code point where halves are told by their numbers. -/
def written : CodePoint → List Char
  | char letter => [letter]
  | half index => '\\' :: 'u' :: Text.hexDigits 4 (firstHalf + index)

/-- The bytes of a code point in the name of a file: halves from the 1152nd
to the 1279th stand for the raw bytes from 128 on, and others for none. -/
def bytes? : CodePoint → Option Bytes
  | char letter => some (Bytes.ofText letter.toString)
  | half index =>
    if 1152 ≤ index.val ∧ index.val < 1280 then
      some [UInt8.ofNat (index.val - 1024)]
    else none

end CodePoint

/-! ## Texts -/

/-- A text in which there is a half of a pair. -/
structure TornText where
  points : List CodePoint
  torn : points.any CodePoint.isHalf = true
deriving DecidableEq, Repr

/-- A text that may be torn. -/
inductive WideText where
  | whole (text : String)
  | torn (text : TornText)
deriving DecidableEq, Repr

namespace WideText

instance : Inhabited WideText := ⟨whole ""⟩

/-- The code points of a text. -/
def points : WideText → List CodePoint
  | whole text => text.toList.map .char
  | torn text => text.points

/-- The text of code points. -/
def ofPoints (points : List CodePoint) : WideText :=
  if isTorn : points.any CodePoint.isHalf = true then torn ⟨points, isTorn⟩
  else whole (String.ofList (points.filterMap CodePoint.char?))

/-- The text, if it is not torn. -/
def whole? : WideText → Option String
  | whole text => some text
  | torn _ => none

/-- The text without blanks at either end. -/
def trim (text : WideText) : WideText :=
  let started := text.points.dropWhile CodePoint.isBlank
  ofPoints (started.reverse.dropWhile CodePoint.isBlank).reverse

/-- The text where halves are told by their numbers. -/
def written (text : WideText) : String :=
  String.ofList (text.points.flatMap CodePoint.written)

/-- The name of a file that a text is. -/
def fileName? : WideText → Option String
  | whole text => some text
  | torn text => do
    Bytes.toText? (← text.points.mapM CodePoint.bytes?).flatten

end WideText

namespace TornText

/-- The quoted form of a torn text. -/
def quoted (text : TornText) : String :=
  let quote := Text.quoteMark (text.points.filterMap CodePoint.char?)
  String.ofList
    (quote :: (text.points.flatMap (CodePoint.escape quote) ++ [quote]))

/-- Why a torn text cannot be encoded: the first halves in it, and where they
stand. -/
def message (text : TornText) : String :=
  let before := text.points.takeWhile fun point => !point.isHalf
  let halves :=
    (text.points.drop before.length).takeWhile CodePoint.isHalf
  let start := before.length
  match halves with
  | [single] =>
    "'utf-8' codec can't encode character '" ++
      String.ofList single.written ++ s!"' in position {start}: " ++
      "surrogates not allowed"
  | _ =>
    "'utf-8' codec can't encode characters in position " ++
      s!"{start}-{start + halves.length - 1}: surrogates not allowed"

end TornText

namespace WideText

/-- Characters make a text that is not torn. -/
@[simp]
theorem ofPoints_map_char (text : List Char) :
    ofPoints (text.map .char) = whole (String.ofList text) := by
  have noHalf : ¬ (text.map CodePoint.char).any CodePoint.isHalf = true := by
    simp [CodePoint.isHalf]
  have chars :
      (text.map CodePoint.char).filterMap CodePoint.char? = text := by
    rw [List.filterMap_map]
    exact List.filterMap_some
  unfold ofPoints
  rw [dif_neg noHalf, chars]

/-- A text is torn exactly if a half is among its code points. -/
theorem whole?_eq_none_iff (text : WideText) :
    text.whole? = none ↔ ∃ point ∈ text.points, point.isHalf = true := by
  cases text with
  | whole text => simp [whole?, points, CodePoint.isHalf]
  | torn text => simpa [whole?, points] using text.torn

@[simp]
theorem trim_whole (text : String) :
    (whole text).trim = whole (String.ofList (Text.trim text.toList)) := by
  have blanks :
      CodePoint.isBlank ∘ CodePoint.char = Text.isBlank := rfl
  unfold trim points
  dsimp only
  rw [List.dropWhile_map, ← List.map_reverse, List.dropWhile_map,
    ← List.map_reverse, blanks, ofPoints_map_char]
  rfl

end WideText

end CrateShelf
