/-!
# Bytes

Files and packed documents are lists of bytes.  Text is stored in UTF-8;
bytes that are not valid UTF-8 are refused with the place and nature of the
first fault.
-/

namespace CrateShelf

/-- A list of bytes. -/
abbrev Bytes := List UInt8

/-- What is wrong with a byte sequence. -/
inductive Utf8Fault where
  | invalidStart
  | invalidContinuation
  | unexpectedEnd
deriving DecidableEq, Repr

/-- The first fault of bytes that should be UTF-8: its nature, the first
byte, where the faulty stretch starts and how many bytes it has. -/
structure Utf8Error where
  fault : Utf8Fault
  first : UInt8
  offset : Nat
  count : Nat
deriving DecidableEq, Repr

namespace Bytes

/-- The bytes of a text. -/
def ofText (text : String) : Bytes :=
  text.toUTF8.data.toList

/-- The text that the bytes are the UTF-8 form of. -/
def toText? (bytes : Bytes) : Option String :=
  String.fromUTF8? ⟨bytes.toArray⟩

/-- A digit of a hexadecimal number. -/
def hexDigit (value : Nat) : Char :=
  Nat.digitChar value

/-- The bytes in hexadecimal, two digits each. -/
def toHex (bytes : Bytes) : String :=
  String.ofList (bytes.flatMap fun byte =>
    [hexDigit (byte.toNat / 16), hexDigit (byte.toNat % 16)])

/-- Whether a byte continues a character. -/
def isContinuation (byte : UInt8) : Bool :=
  128 ≤ byte.toNat && byte.toNat < 192

/-- How many bytes the character that starts with a byte has. -/
def sequenceLength (first : UInt8) : Option Nat :=
  let value := first.toNat
  if value < 128 then some 1
  else if value < 194 then none
  else if value < 224 then some 2
  else if value < 240 then some 3
  else if value < 245 then some 4
  else none

/-- Whether a byte may stand in the second place behind a first byte. -/
def fitsSecond (first second : UInt8) : Bool :=
  isContinuation second &&
    !(first == 224 && second.toNat < 160) &&
    !(first == 237 && 160 ≤ second.toNat) &&
    !(first == 240 && second.toNat < 144) &&
    !(first == 244 && 144 ≤ second.toNat)

/-- The number of bytes that go together from a first byte on, among those
that follow it. -/
def goodLength (first : UInt8) (wanted : Nat) (following : Bytes) : Nat :=
  match following with
  | [] => 1
  | second :: others =>
    if fitsSecond first second then
      2 + ((others.take (wanted - 2)).takeWhile isContinuation).length
    else 1

/-- The first fault from an offset on; `skip` bytes belong to a character
that was already looked at. -/
def firstFault : Nat → Nat → Bytes → Option Utf8Error
  | _, _, [] => none
  | offset, skip + 1, _ :: rest => firstFault (offset + 1) skip rest
  | offset, 0, first :: rest =>
    match sequenceLength first with
    | none => some ⟨.invalidStart, first, offset, 1⟩
    | some 1 => firstFault (offset + 1) 0 rest
    | some wanted =>
      let good := goodLength first wanted rest
      if wanted ≤ good then firstFault (offset + 1) (wanted - 1) rest
      else if rest.length + 1 ≤ good then
        some ⟨.unexpectedEnd, first, offset, good⟩
      else some ⟨.invalidContinuation, first, offset, good⟩

/-- The text of the bytes, or their first fault. -/
def decodeText (bytes : Bytes) : Except Utf8Error String :=
  match toText? bytes with
  | some text => .ok text
  | none =>
    .error ((firstFault 0 0 bytes).getD ⟨.unexpectedEnd, 0, 0, 0⟩)

@[simp]
theorem toText?_ofText (text : String) : toText? (ofText text) = some text := by
  have valid : text.toByteArray.IsValidUTF8 := text.isValidUTF8
  simp [toText?, ofText, String.fromUTF8?, String.fromUTF8, valid]

@[simp]
theorem decodeText_ofText (text : String) :
    decodeText (ofText text) = .ok text := by
  simp [decodeText]

end Bytes

/-- The wording of the error. -/
def Utf8Error.message (error : Utf8Error) : String :=
  let reason := match error.fault with
    | .invalidStart => "invalid start byte"
    | .invalidContinuation => "invalid continuation byte"
    | .unexpectedEnd => "unexpected end of data"
  if error.count = 1 then
    "'utf-8' codec can't decode byte 0x" ++ Bytes.toHex [error.first] ++
      s!" in position {error.offset}: " ++ reason
  else
    "'utf-8' codec can't decode bytes in position " ++
      s!"{error.offset}-{error.offset + error.count - 1}: " ++ reason

end CrateShelf
