import CrateShelf.Bytes
import CrateShelf.Double
import CrateShelf.Pack.Instant
import CrateShelf.Text.Wide

/-!
# Packed documents

The values that a packed document can hold, and how they are shown in
messages.  A text that is torn can be made but not packed, so that no document
holds one.  A map keeps its entries in the order in which they were met; a
key that comes again replaces the value of the first.  Numbers and truth
values are the same key if they have the same value.
-/

namespace CrateShelf.Pack

/-- A value of a packed document. -/
inductive Value where
  | null
  | bool (flag : Bool)
  | int (number : Int)
  /-- A double, by its bit pattern. -/
  | real (bits : UInt64)
  | text (content : String)
  | torn (content : TornText)
  | bytes (content : Bytes)
  | time (instant : Instant)
  | list (items : List Value)
  | map (entries : List (Value × Value))
  | extension (code : Int) (content : Bytes)
deriving Repr, Inhabited

namespace Value

instance : Coe String Value := ⟨text⟩

/-- A text as a value. -/
def ofWide : WideText → Value
  | .whole content => text content
  | .torn content => torn content

/-! ## Equality -/

mutual

/-- Whether two values are equal. -/
def isEqual : Value → Value → Bool
  | null, null => true
  | bool first, bool second => first == second
  | int first, int second => first == second
  | real first, real second => first == second
  | text first, text second => first == second
  | torn first, torn second => first == second
  | bytes first, bytes second => first == second
  | time first, time second => first == second
  | list first, list second => areEqual first second
  | map first, map second => haveEqual first second
  | extension code first, extension other second =>
    code == other && first == second
  | _, _ => false

/-- Whether two lists have equal items. -/
def areEqual : List Value → List Value → Bool
  | [], [] => true
  | first :: others, second :: rest =>
    isEqual first second && areEqual others rest
  | _, _ => false

/-- Whether two maps have equal entries. -/
def haveEqual : List (Value × Value) → List (Value × Value) → Bool
  | [], [] => true
  | (key, first) :: others, (otherKey, second) :: rest =>
    isEqual key otherKey && isEqual first second && haveEqual others rest
  | _, _ => false

end

mutual

theorem isEqual_iff : (first second : Value) →
    (isEqual first second = true ↔ first = second)
  | null, second => by cases second <;> simp [isEqual]
  | bool _, second => by cases second <;> simp [isEqual]
  | int _, second => by cases second <;> simp [isEqual]
  | real _, second => by cases second <;> simp [isEqual]
  | text _, second => by cases second <;> simp [isEqual]
  | torn _, second => by cases second <;> simp [isEqual]
  | bytes _, second => by cases second <;> simp [isEqual]
  | time _, second => by cases second <;> simp [isEqual]
  | list items, second => by
    cases second with
    | list others => simp [isEqual, areEqual_iff items others]
    | _ => simp [isEqual]
  | map entries, second => by
    cases second with
    | map others => simp [isEqual, haveEqual_iff entries others]
    | _ => simp [isEqual]
  | extension _ _, second => by cases second <;> simp [isEqual]

theorem areEqual_iff : (first second : List Value) →
    (areEqual first second = true ↔ first = second)
  | [], second => by cases second <;> simp [areEqual]
  | item :: items, second => by
    cases second with
    | nil => simp [areEqual]
    | cons other others =>
      simp [areEqual, isEqual_iff item other, areEqual_iff items others]

theorem haveEqual_iff : (first second : List (Value × Value)) →
    (haveEqual first second = true ↔ first = second)
  | [], second => by cases second <;> simp [haveEqual]
  | (key, value) :: entries, second => by
    cases second with
    | nil => simp [haveEqual]
    | cons entry others =>
      simp [haveEqual, isEqual_iff key entry.1, isEqual_iff value entry.2,
        haveEqual_iff entries others, Prod.ext_iff]

end

instance : DecidableEq Value := fun first second =>
  decidable_of_iff (isEqual first second = true) (isEqual_iff first second)

/-! ## Nature -/

/-- The name of a value's type in messages. -/
def typeName : Value → String
  | null => "null"
  | bool _ => "bool"
  | int _ => "int"
  | real _ => "float"
  | text _ | torn _ => "str"
  | bytes _ => "bytes"
  | time _ => "datetime"
  | list _ => "array"
  | map _ => "object"
  | extension _ _ => "ext"

/-- Whether a value counts as something: not null, false, zero or empty. -/
def isTruthy : Value → Bool
  | null => false
  | bool flag => flag
  | int number => number != 0
  | real bits => !Double.isZero bits
  | text content => content != ""
  | bytes content => !content.isEmpty
  | list items => !items.isEmpty
  | map entries => !entries.isEmpty
  | torn _ | time _ | extension _ _ => true

/-- Whether a value is a text. -/
def isText : Value → Bool
  | text _ | torn _ => true
  | _ => false

/-- Whether a value is a text of characters only. -/
def isWholeText : Value → Bool
  | text _ => true
  | _ => false

theorem isText_of_isWholeText
    {value : Value}
    (whole : value.isWholeText = true) :
    value.isText = true := by
  cases value with
  | text content => rfl
  | _ => cases whole

/-! ## Keys -/

mutual

/-- Whether a value can be the key of a map. -/
def isKey : Value → Bool
  | map _ | extension _ _ => false
  | list items => areKeys items
  | _ => true

/-- Whether every one of the values can be the key of a map. -/
def areKeys : List Value → Bool
  | [] => true
  | item :: items => isKey item && areKeys items

end

/-- What a number or truth value is compared by: whole numbers by their
value, other doubles by their bit pattern.  A double that is no number equals
nothing. -/
def number? : Value → Option (Int ⊕ UInt64)
  | bool flag => some (.inl flag.toInt)
  | int number => some (.inl number)
  | real bits =>
    match Double.toInt? bits with
    | some number => some (.inl number)
    | none =>
      if Double.infinite < bits.toNat % Double.signBit then none
      else some (.inr bits)
  | _ => none

mutual

/-- Whether two values are the same key. -/
def isSameKey : Value → Value → Bool
  | null, null => true
  | text first, text second => first == second
  | torn first, torn second => first == second
  | bytes first, bytes second => first == second
  | time first, time second => first == second
  | list first, list second => areSameKeys first second
  | first, second =>
    match number? first, number? second with
    | some number, some other => number == other
    | _, _ => false

/-- Whether two lists have the same keys as items. -/
def areSameKeys : List Value → List Value → Bool
  | [], [] => true
  | first :: others, second :: rest =>
    isSameKey first second && areSameKeys others rest
  | _, _ => false

end

/-! ## Wording -/

/-- One byte as it is shown between quotes. -/
def showByte (quote : Char) (byte : UInt8) : List Char :=
  let char := Char.ofNat byte.toNat
  if byte.toNat < 127 then Text.escapeChar quote char
  else '\\' :: 'x' :: Text.hexDigits 2 byte.toNat

/-- Raw bytes as they are shown in messages. -/
def shownBytes (content : Bytes) : String :=
  let chars := content.map fun byte => Char.ofNat byte.toNat
  let mark := Text.quoteMark chars
  "b" ++ String.ofList
    (mark :: (content.flatMap (showByte mark) ++ [mark]))

/-- Shown items in the brackets of a list or, within a key, in round ones,
where a single item has a comma behind it. -/
def enclose (inKey : Bool) (items : List String) : String :=
  if inKey then
    "(" ++ ", ".intercalate items ++
      (if items.length = 1 then ",)" else ")")
  else "[" ++ ", ".intercalate items ++ "]"

mutual

/-- A value as it is shown in messages, by itself or within a key. -/
def shownIn (inKey : Bool) : Value → String
  | null => "None"
  | bool flag => if flag then "True" else "False"
  | int number => toString number
  | real bits => Double.toText bits
  | text content => quote content
  | torn content => content.quoted
  | bytes content => shownBytes content
  | time instant => instant.shown
  | list items => enclose inKey (shownItems inKey items)
  | map entries =>
    "\x7b" ++ ", ".intercalate (shownEntries entries) ++ "\x7d"
  | extension code content =>
    s!"Ext(code={code}, data=" ++ shownBytes content ++ ")"

/-- The items of a list as they are shown. -/
def shownItems (inKey : Bool) : List Value → List String
  | [] => []
  | item :: items => shownIn inKey item :: shownItems inKey items

/-- The entries of a map as they are shown. -/
def shownEntries : List (Value × Value) → List String
  | [] => []
  | (key, value) :: entries =>
    (shownIn true key ++ ": " ++ shownIn false value) :: shownEntries entries

end

/-- A value as it is shown in messages. -/
def shown (value : Value) : String := value.shownIn false

/-- A key as it is shown in messages. -/
def shownKey (key : Value) : String := key.shownIn true

/-- A value as part of a text: a text stands for itself, halves of pairs in
it being told by their numbers. -/
def written : Value → String
  | text content => content
  | torn content => (WideText.torn content).written
  | time instant => instant.written
  | value => value.shown

@[simp]
theorem written_text (content : String) : (text content).written = content :=
  rfl

/-! ## Contents -/

/-- The value that entries hold under a text. -/
def lookup? (entries : List (Value × Value)) (key : String) : Option Value :=
  (entries.find? fun entry =>
    match entry.1 with
    | text content => content == key
    | _ => false).map (·.2)

/-- The entries with a value for a key: in the place of the key if it is
there, at the end otherwise. -/
def insertEntry (entries : List (Value × Value)) (key value : Value) :
    List (Value × Value) :=
  if entries.any (·.1.isSameKey key) then
    entries.map fun entry =>
      if entry.1.isSameKey key then (entry.1, value) else entry
  else entries ++ [(key, value)]

/-- The items that are met when a value is gone through one by one: those of
a list, the keys of a map, the characters of a text. -/
def elements? : Value → Option (List Value)
  | list items => some items
  | map entries => some (entries.map (·.1))
  | text content =>
    some (content.toList.map fun char => text char.toString)
  | torn content =>
    some (content.points.map fun point => ofWide (.ofPoints [point]))
  | bytes content => some (content.map fun byte => int byte.toNat)
  | _ => none

end Value

end CrateShelf.Pack
