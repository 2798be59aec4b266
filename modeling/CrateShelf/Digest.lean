import CrateShelf.Pack.Format
import CrateShelf.Record.Codec

/-!
# Digests

The SHA-1 digest of bytes, and the short mark taken from it that tells apart
records whose files would have the same name.
-/

namespace CrateShelf.Digest

/-- The five words that are carried from block to block. -/
structure State where
  a : UInt32
  b : UInt32
  c : UInt32
  d : UInt32
  e : UInt32
deriving DecidableEq, Repr

/-- The words before the first block. -/
def State.initial : State :=
  ⟨0x67452301, 0xEFCDAB89, 0x98BADCFE, 0x10325476, 0xC3D2E1F0⟩

/-- A word turned to the left. -/
def rotate (word : UInt32) (count : UInt32) : UInt32 :=
  (word <<< count) ||| (word >>> (32 - count))

/-- The bytes with a one bit, zero bits and the number of bits after them, so
that whole blocks result. -/
def padded (bytes : Bytes) : Bytes :=
  let zeros := (119 - bytes.length % 64) % 64
  bytes ++ 128 :: List.replicate zeros 0 ++
    Pack.bigEndian 8 (bytes.length * 8)

/-- The words of a block. -/
def wordsOf : Bytes → List UInt32
  | first :: second :: third :: fourth :: rest =>
    UInt32.ofNat (Pack.readBigEndian [first, second, third, fourth]) ::
      wordsOf rest
  | _ => []

/-- The word that follows sixteen words, which are given last first. -/
def nextWord (recent : List UInt32) : UInt32 :=
  rotate (recent.getD 2 0 ^^^ recent.getD 7 0 ^^^ recent.getD 13 0 ^^^
    recent.getD 15 0) 1

/-- Words, last first, with a number of further words. -/
def extend : Nat → List UInt32 → List UInt32
  | 0, words => words
  | count + 1, words => extend count (nextWord words :: words)

/-- One round with a word. -/
def round (index : Nat) (state : State) (word : UInt32) : State :=
  let ⟨a, b, c, d, e⟩ := state
  let (mixed, constant) : UInt32 × UInt32 :=
    if index < 20 then ((b &&& c) ||| ((~~~b) &&& d), 0x5A827999)
    else if index < 40 then (b ^^^ c ^^^ d, 0x6ED9EBA1)
    else if index < 60 then
      ((b &&& c) ||| (b &&& d) ||| (c &&& d), 0x8F1BBCDC)
    else (b ^^^ c ^^^ d, 0xCA62C1D6)
  ⟨rotate a 5 + mixed + e + constant + word, a, rotate b 30, c, d⟩

/-- The state after a block. -/
def compress (state : State) (block : Bytes) : State :=
  let words := (extend 64 (wordsOf block).reverse).reverse
  let last := (words.zipIdx).foldl
    (fun state (word, index) => round index state word) state
  ⟨state.a + last.a, state.b + last.b, state.c + last.c, state.d + last.d,
    state.e + last.e⟩

/-- The state after a number of blocks. -/
def compressAll : Nat → State → Bytes → State
  | 0, state, _ => state
  | count + 1, state, bytes =>
    compressAll count (compress state (bytes.take 64)) (bytes.drop 64)

/-- The SHA-1 digest of bytes. -/
def sha1 (bytes : Bytes) : Bytes :=
  let blocks := padded bytes
  let state := compressAll (blocks.length / 64) .initial blocks
  [state.a, state.b, state.c, state.d, state.e].flatMap fun word =>
    Pack.bigEndian 4 word.toNat

end CrateShelf.Digest

namespace CrateShelf.Record

/-- The mark that tells a record apart from others of its name: six digits
of the digest of its declaration and its written form. -/
def discriminator (record : Record) : String :=
  let digest := Digest.sha1
    (Bytes.ofText record.signature ++ Record.encode record)
  String.ofList ((Bytes.toHex digest).toList.take 6)

end CrateShelf.Record
