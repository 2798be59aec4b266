import CrateShelf.Depths
import CrateShelf.Pack.Value

/-!
# The packed format

MessagePack: every value starts with a byte that tells its type and, for
short values, its length.  Numbers are big-endian.  Writing always takes the
shortest form; reading accepts every form.
-/

namespace CrateShelf.Pack

/-! ## Places -/

/-- A step from a list or a map to something in it. -/
inductive Step where
  | item (index : Nat)
  | value
  | key
deriving DecidableEq, Repr

/-- A place in a document: the steps that lead to it, the last one first. -/
abbrev Place := List Step

/-- The innermost key that a place is in, or the document, followed by the
steps behind it; and what that is in. -/
def placeParts : Place → String × String
  | [] => ("$", "")
  | step :: rest =>
    let (inner, outer) := placeParts rest
    match step with
    | .item index => (inner ++ s!"[{index}]", outer)
    | .value => (inner ++ "[...]", outer)
    | .key => ("key", "` in `" ++ inner ++ outer)

/-- How a place is told behind a message; the document itself is not. -/
def placeRemark (place : Place) : String :=
  if place.isEmpty then ""
  else
    let (inner, outer) := placeParts place
    " - at `" ++ inner ++ outer ++ "`"

/-! ## Faults -/

/-- What is wrong with an instant. -/
inductive InstantFault where
  /-- It has the wrong length. -/
  | malformed
  /-- It has more than a second of billionths. -/
  | fraction
  /-- Its year is not known. -/
  | unknown
deriving DecidableEq, Repr

/-- The wording of the fault. -/
def InstantFault.message : InstantFault → String
  | malformed => "Invalid MessagePack timestamp"
  | fraction =>
    "Invalid MessagePack timestamp: nanoseconds out of range"
  | unknown => "Timestamp is out of range"

/-- Why bytes are not a packed document. -/
inductive ReadError where
  | truncated
  /-- A first byte that starts no value, and its offset. -/
  | invalidOpcode (offset : Nat)
  /-- Bytes behind the document, from an offset on. -/
  | trailing (offset : Nat)
  /-- A text that is not UTF-8. -/
  | invalidText
  /-- A map with a key that cannot be looked up, and where its value ends. -/
  | invalidKey (offset : Nat)
  /-- An instant that is none, and its place. -/
  | invalidInstant (fault : InstantFault) (place : Place)
  /-- Lists and maps that are nested too deeply. -/
  | tooDeep
deriving DecidableEq, Repr

/-- The wording of an error at an offset. -/
def malformedMessage (reason : String) (offset : Nat) : String :=
  "MessagePack data is malformed: " ++ reason ++ s!" (byte {offset})"

/-- The wording of the error. -/
def ReadError.message : ReadError → String
  | truncated => "Input data was truncated"
  | invalidOpcode offset =>
    malformedMessage "invalid opcode '\\xc1'" offset
  | trailing offset => malformedMessage "trailing characters" offset
  | invalidText => "invalid text"
  | invalidKey offset => malformedMessage "map keys must be hashable" offset
  | invalidInstant fault place => fault.message ++ placeRemark place
  | tooDeep => "nested too deeply"

/-! ## Size -/

namespace Value

/-- Whether a length can be told in four bytes. -/
def isLength (length : Nat) : Bool :=
  length < 4294967296

/-- Whether a whole number can be told in eight bytes. -/
def isNumber (number : Int) : Bool :=
  -0x8000000000000000 ≤ number && number < 0x10000000000000000

mutual

/-- Whether the texts in a value can be encoded, and its numbers and lengths
fit the bytes that the format has for them: whole numbers eight, lengths
four. -/
def fits : Value → Bool
  | null | bool _ | real _ => true
  | int number => isNumber number
  | text content => isLength (Bytes.ofText content).length
  | torn _ => false
  | bytes content => isLength content.length
  | list items => isLength items.length && allFit items
  | map entries => isLength entries.length && entriesFit entries
  | time _ => true
  | extension _ content => isLength content.length

/-- Whether all items of a list fit. -/
def allFit : List Value → Bool
  | [] => true
  | item :: items => fits item && allFit items

/-- Whether all entries of a map fit. -/
def entriesFit : List (Value × Value) → Bool
  | [] => true
  | (key, value) :: entries => fits key && fits value && entriesFit entries

end

end Value

/-- Why a value cannot be packed. -/
inductive WriteError where
  /-- A number or a length is too large. -/
  | oversized
  /-- A text is torn. -/
  | torn (text : TornText)
deriving DecidableEq, Repr

/-- The wording of the error; what is too large has none. -/
def WriteError.message? : WriteError → Option String
  | oversized => none
  | torn text => some text.message

namespace Value

/-- The error unless a condition holds. -/
def oversizedUnless (condition : Bool) : Option WriteError :=
  if condition then none else some .oversized

mutual

/-- What is found first that keeps a value from being packed. -/
def writeError? : Value → Option WriteError
  | null | bool _ | real _ | time _ => none
  | int number => oversizedUnless (isNumber number)
  | text content => oversizedUnless (isLength (Bytes.ofText content).length)
  | torn content => some (.torn content)
  | bytes content | extension _ content =>
    oversizedUnless (isLength content.length)
  | list items =>
    (oversizedUnless (isLength items.length)).or (itemsError? items)
  | map entries =>
    (oversizedUnless (isLength entries.length)).or (entriesError? entries)

/-- What keeps the items of a list from being packed. -/
def itemsError? : List Value → Option WriteError
  | [] => none
  | item :: items => (writeError? item).or (itemsError? items)

/-- What keeps the entries of a map from being packed. -/
def entriesError? : List (Value × Value) → Option WriteError
  | [] => none
  | (key, value) :: entries =>
    (writeError? key).or ((writeError? value).or (entriesError? entries))

end

@[simp]
theorem oversizedUnless_eq_none_iff (condition : Bool) :
    oversizedUnless condition = none ↔ condition = true := by
  simp [oversizedUnless]

mutual

/-- A value can be packed exactly if it fits. -/
theorem writeError?_eq_none_iff : (value : Value) →
    (writeError? value = none ↔ fits value = true)
  | null | bool _ | real _ | time _ | torn _ => by simp [writeError?, fits]
  | int _ | text _ | bytes _ | extension _ _ => by simp [writeError?, fits]
  | list items => by simp [writeError?, fits, itemsError?_eq_none_iff items]
  | map entries => by
    simp [writeError?, fits, entriesError?_eq_none_iff entries]

theorem itemsError?_eq_none_iff : (items : List Value) →
    (itemsError? items = none ↔ allFit items = true)
  | [] => by simp [itemsError?, allFit]
  | item :: items => by
    simp [itemsError?, allFit, writeError?_eq_none_iff item,
      itemsError?_eq_none_iff items]

theorem entriesError?_eq_none_iff : (entries : List (Value × Value)) →
    (entriesError? entries = none ↔ entriesFit entries = true)
  | [] => by simp [entriesError?, entriesFit]
  | (key, value) :: entries => by
    simp [entriesError?, entriesFit, writeError?_eq_none_iff key,
      writeError?_eq_none_iff value, entriesError?_eq_none_iff entries,
      and_assoc]

end

end Value

/-! ## Writing -/

/-- The lowest `count` bytes of a number, the highest first. -/
def bigEndian : Nat → Nat → Bytes
  | 0, _ => []
  | count + 1, number =>
    UInt8.ofNat (number / Nat.pow 256 count) :: bigEndian count number

/-- The number written by bytes, the highest first. -/
def readBigEndian (bytes : Bytes) : Nat :=
  bytes.foldl (fun number byte => number * 256 + byte.toNat) 0

/-- The bytes in front of a text. -/
def textHead (length : Nat) : Bytes :=
  if length < 32 then [UInt8.ofNat (160 + length)]
  else if length < 256 then 217 :: bigEndian 1 length
  else if length < 65536 then 218 :: bigEndian 2 length
  else 219 :: bigEndian 4 length

/-- The bytes in front of a list. -/
def listHead (length : Nat) : Bytes :=
  if length < 16 then [UInt8.ofNat (144 + length)]
  else if length < 65536 then 220 :: bigEndian 2 length
  else 221 :: bigEndian 4 length

/-- The bytes in front of a map. -/
def mapHead (length : Nat) : Bytes :=
  if length < 16 then [UInt8.ofNat (128 + length)]
  else if length < 65536 then 222 :: bigEndian 2 length
  else 223 :: bigEndian 4 length

/-- The bytes in front of raw bytes. -/
def bytesHead (length : Nat) : Bytes :=
  if length < 256 then 196 :: bigEndian 1 length
  else if length < 65536 then 197 :: bigEndian 2 length
  else 198 :: bigEndian 4 length

/-- The bytes of a number. -/
def packInt (number : Int) : Bytes :=
  if 0 ≤ number then
    let size := number.toNat
    if size < 128 then [UInt8.ofNat size]
    else if size < 256 then 204 :: bigEndian 1 size
    else if size < 65536 then 205 :: bigEndian 2 size
    else if size < 4294967296 then 206 :: bigEndian 4 size
    else 207 :: bigEndian 8 size
  else if -32 ≤ number then [UInt8.ofNat (256 + number).toNat]
  else if -128 ≤ number then 208 :: bigEndian 1 (256 + number).toNat
  else if -32768 ≤ number then 209 :: bigEndian 2 (65536 + number).toNat
  else if -2147483648 ≤ number then
    210 :: bigEndian 4 (4294967296 + number).toNat
  else 211 :: bigEndian 8 (18446744073709551616 + number).toNat

/-- The bytes in front of an extension, without its code. -/
def extensionHead (length : Nat) : Bytes :=
  match length with
  | 1 => [212]
  | 2 => [213]
  | 4 => [214]
  | 8 => [215]
  | 16 => [216]
  | _ =>
    if length < 256 then 199 :: bigEndian 1 length
    else if length < 65536 then 200 :: bigEndian 2 length
    else 201 :: bigEndian 4 length

/-- The bytes of an extension. -/
def packExtension (code : Int) (content : Bytes) : Bytes :=
  extensionHead content.length ++ UInt8.ofNat (code % 256).toNat :: content

/-- The code of the extension that is an instant. -/
def instantCode : Int := -1

/-- The bytes of an instant, in the shortest of three forms. -/
def packInstant (instant : Instant) : Bytes :=
  let billionths := instant.millionths * 1000
  let seconds := instant.seconds
  packExtension instantCode <|
    if 0 ≤ seconds && seconds < Nat.pow 2 34 then
      if billionths = 0 && seconds < Nat.pow 2 32 then
        bigEndian 4 seconds.toNat
      else bigEndian 8 (billionths * Nat.pow 2 34 + seconds.toNat)
    else
      bigEndian 4 billionths ++
        bigEndian 8 (seconds % (Nat.pow 2 64 : Nat)).toNat

mutual

/-- The packed form of a value that fits; a torn text has none. -/
def pack : Value → Bytes
  | .null => [192]
  | .bool false => [194]
  | .bool true => [195]
  | .int number => packInt number
  | .real bits => 203 :: bigEndian 8 bits.toNat
  | .text content =>
    let bytes := Bytes.ofText content
    textHead bytes.length ++ bytes
  | .torn _ => []
  | .bytes content => bytesHead content.length ++ content
  | .list items => listHead items.length ++ packItems items
  | .map entries => mapHead entries.length ++ packEntries entries
  | .time instant => packInstant instant
  | .extension code content => packExtension code content

/-- The packed items of a list, one after the other. -/
def packItems : List Value → Bytes
  | [] => []
  | item :: items => pack item ++ packItems items

/-- The packed entries of a map, one after the other. -/
def packEntries : List (Value × Value) → Bytes
  | [] => []
  | (key, value) :: entries => pack key ++ (pack value ++ packEntries entries)

end

/-! ## Reading -/

/-- A reader takes what it reads off the front of the bytes. -/
abbrev Reader (Result : Type) := Bytes → Except ReadError (Result × Bytes)

/-- Reads a number of bytes. -/
def takeBytes (count : Nat) : Reader Bytes := fun bytes =>
  if bytes.length < count then .error .truncated
  else .ok (bytes.take count, bytes.drop count)

/-- Reads a number of the given width. -/
def takeNumber (width : Nat) : Reader Nat := fun bytes => do
  let (digits, rest) ← takeBytes width bytes
  return (readBigEndian digits, rest)

/-- Reads so many values of a list, the first of which has a number. -/
def readItems (item : Step → Reader Value) :
    (index count : Nat) → Reader (List Value)
  | _, 0, bytes => .ok ([], bytes)
  | index, count + 1, bytes => do
    let (first, rest) ← item (.item index) bytes
    let (others, rest) ← readItems item (index + 1) count rest
    return (first :: others, rest)

/-- Reads so many entries of a map behind those already met, out of a
document of `total` bytes. -/
def readEntries (total : Nat) (item : Step → Reader Value) :
    Nat → List (Value × Value) → Reader (List (Value × Value))
  | 0, known, bytes => .ok (known, bytes)
  | count + 1, known, bytes => do
    let (key, rest) ← item .key bytes
    let (value, rest) ← item .value rest
    if key.isKey then
      readEntries total item count (Value.insertEntry known key value) rest
    else .error (.invalidKey (total - rest.length))

/-- Reads a text of the given length. -/
def readText (length : Nat) : Reader Value := fun bytes => do
  let (content, rest) ← takeBytes length bytes
  match Bytes.toText? content with
  | some text => return (.text text, rest)
  | none => .error .invalidText

/-- The number that bits stand for when the highest one is the sign. -/
def signed (width number : Nat) : Int :=
  if number < Nat.pow 2 (8 * width - 1) then number
  else (number : Int) - Nat.pow 2 (8 * width)

/-- The instant of some seconds and billionths; what is less than a millionth
is left out. -/
def instantOf (seconds : Int) (billionths : Nat) :
    Except InstantFault Instant :=
  let instant : Instant := ⟨seconds, billionths / 1000⟩
  if 1000000000 ≤ billionths then .error .fraction
  else if instant.isKnown then .ok instant
  else .error .unknown

/-- The instant that the content of an extension is. -/
def readInstant (content : Bytes) : Except InstantFault Instant :=
  let number := readBigEndian content
  match content.length with
  | 4 => instantOf number 0
  | 8 => instantOf (number % Nat.pow 2 34 : Nat) (number / Nat.pow 2 34)
  | 12 =>
    instantOf (signed 8 (number % Nat.pow 2 64)) (number / Nat.pow 2 64)
  | _ => .error .malformed

/-- Reads an extension of the given length. -/
def readExtension (place : Place) (length : Nat) : Reader Value :=
    fun bytes => do
  let (code, rest) ← takeNumber 1 bytes
  let (content, rest) ← takeBytes length rest
  if signed 1 code = instantCode then
    match readInstant content with
    | .ok instant => return (.time instant, rest)
    | .error fault => .error (.invalidInstant fault place)
  else return (.extension (signed 1 code) content, rest)

/-- The bit pattern of the double with the value of a single. -/
def widen (pattern : Nat) : UInt64 :=
  (Float32.ofBits (UInt32.ofNat pattern)).toFloat.toBits

/-- Reads the value that a first byte starts at a place of a document of
`total` bytes; `item` reads the values inside it. -/
def readAfter (total : Nat) (item : Step → Reader Value) (place : Place)
    (opcode : Nat) : Reader Value := fun bytes =>
  let list (width : Nat) := do
    let (count, rest) ← takeNumber width bytes
    let (items, rest) ← readItems item 0 count rest
    return (Value.list items, rest)
  let map (width : Nat) := do
    let (count, rest) ← takeNumber width bytes
    let (entries, rest) ← readEntries total item count [] rest
    return (Value.map entries, rest)
  let text (width : Nat) := do
    let (length, rest) ← takeNumber width bytes
    readText length rest
  let binary (width : Nat) := do
    let (length, rest) ← takeNumber width bytes
    let (content, rest) ← takeBytes length rest
    return (Value.bytes content, rest)
  let extension (width : Nat) := do
    let (length, rest) ← takeNumber width bytes
    readExtension place length rest
  let positive (width : Nat) := do
    let (number, rest) ← takeNumber width bytes
    return (Value.int number, rest)
  let negative (width : Nat) := do
    let (number, rest) ← takeNumber width bytes
    return (Value.int (signed width number), rest)
  if opcode < 128 then .ok (.int opcode, bytes)
  else if opcode < 144 then do
    let (entries, rest) ← readEntries total item (opcode - 128) [] bytes
    return (.map entries, rest)
  else if opcode < 160 then do
    let (items, rest) ← readItems item 0 (opcode - 144) bytes
    return (.list items, rest)
  else if opcode < 192 then readText (opcode - 160) bytes
  else if 224 ≤ opcode then .ok (.int ((opcode : Int) - 256), bytes)
  else
    match opcode with
    | 192 => .ok (.null, bytes)
    | 193 => .error (.invalidOpcode (total - (bytes.length + 1)))
    | 194 => .ok (.bool false, bytes)
    | 195 => .ok (.bool true, bytes)
    | 196 => binary 1
    | 197 => binary 2
    | 198 => binary 4
    | 199 => extension 1
    | 200 => extension 2
    | 201 => extension 4
    | 202 => do
      let (pattern, rest) ← takeNumber 4 bytes
      return (.real (widen pattern), rest)
    | 203 => do
      let (pattern, rest) ← takeNumber 8 bytes
      return (.real (UInt64.ofNat pattern), rest)
    | 204 => positive 1
    | 205 => positive 2
    | 206 => positive 4
    | 207 => positive 8
    | 208 => negative 1
    | 209 => negative 2
    | 210 => negative 4
    | 211 => negative 8
    | 212 => readExtension place 1 bytes
    | 213 => readExtension place 2 bytes
    | 214 => readExtension place 4 bytes
    | 215 => readExtension place 8 bytes
    | 216 => readExtension place 16 bytes
    | 217 => text 1
    | 218 => text 2
    | 219 => text 4
    | 220 => list 2
    | 221 => list 4
    | 222 => map 2
    | _ => map 4

/-- Reads the value at a place; it is at most so many values deep, itself
counted. -/
def readValue (total : Nat) : Nat → Place → Reader Value
  | 0, _, _ => .error .tooDeep
  | _ + 1, _, [] => .error .truncated
  | depth + 1, place, opcode :: rest =>
    readAfter total (fun step => readValue total depth (step :: place)) place
      opcode.toNat rest

/-- Reads a document, which is one value and nothing else. -/
def unpack [Depths] (bytes : Bytes) : Except ReadError Value := do
  let (value, rest) ← readValue bytes.length (Depths.packed + 1) [] bytes
  if rest.isEmpty then return value
  else .error (.trailing (bytes.length - rest.length))

end CrateShelf.Pack
