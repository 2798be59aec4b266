import CrateShelf.Text.Identifier

/-!
# Sets of characters

A set of characters is a list of stretches of code points, in rising order
and with a gap between each two.  Membership is decided by one pass; the
algebra of sets works on the lists.
-/

namespace CrateShelf.Source

/-- The code points from a first to a last one. -/
structure Span where
  first : Nat
  last : Nat
deriving DecidableEq, Repr

/-- A set of characters as rising spans. -/
abbrev Charset := List Span

namespace Charset

/-- The greatest code point. -/
def greatest : Nat := 0x10ffff

/-- Whether a code point lies in one of the spans. -/
def contains : Charset → Nat → Bool
  | [], _ => false
  | span :: rest, code =>
    if code < span.first then false
    else if code ≤ span.last then true
    else contains rest code

/-- What two sets have in common. -/
def meet : Charset → Charset → Charset
  | [], _ => []
  | _ :: _, [] => []
  | left :: lefts, right :: rights =>
    let common : Span :=
      ⟨max left.first right.first, min left.last right.last⟩
    let rest :=
      if left.last < right.last then meet lefts (right :: rights)
      else meet (left :: lefts) rights
    if common.first ≤ common.last then common :: rest else rest
termination_by lefts rights => lefts.length + rights.length

/-- Whether two sets have something in common. -/
def meets : Charset → Charset → Bool
  | [], _ => false
  | _ :: _, [] => false
  | left :: lefts, right :: rights =>
    if max left.first right.first ≤ min left.last right.last then true
    else if left.last < right.last then meets lefts (right :: rights)
    else meets (left :: lefts) rights
termination_by lefts rights => lefts.length + rights.length

/-- The code points from a given one on that lie in none of the spans. -/
def gapsFrom (next : Nat) : Charset → Charset
  | [] => if next ≤ greatest then [⟨next, greatest⟩] else []
  | span :: rest =>
    if next < span.first then
      ⟨next, span.first - 1⟩ :: gapsFrom (span.last + 1) rest
    else gapsFrom (span.last + 1) rest

/-- All characters that are not in a set. -/
def complement (set : Charset) : Charset := gapsFrom 0 set

/-- What is in the first set and not in the second. -/
def without (set other : Charset) : Charset := meet set other.complement

/-- What is in one of two sets. -/
def join (set other : Charset) : Charset :=
  complement (meet set.complement other.complement)

/-- One character. -/
def single (char : Char) : Charset := [⟨char.toNat, char.toNat⟩]

/-- The characters from one to another. -/
def between (first last : Char) : Charset := [⟨first.toNat, last.toNat⟩]

/-- The characters that are listed. -/
def ofChars (chars : String) : Charset :=
  chars.toList.foldl (fun set char => join set (single char)) []

/-- The union of several sets. -/
def ofAll (sets : List Charset) : Charset := sets.foldl join []

/-- The spans of runs that begin at a code point. -/
def ofRunsFrom (next : Nat) : Text.Runs → Charset
  | outside :: inside :: rest =>
    ⟨next + outside, next + outside + inside - 1⟩ ::
      ofRunsFrom (next + outside + inside) rest
  | _ => []

/-- The decimal digits. -/
def digits : Charset := between '0' '9'

/-- The hexadecimal digits. -/
def hexDigits : Charset :=
  ofAll [digits, between 'A' 'F', between 'a' 'f']

/-- The letters and digits of ASCII and the low line. -/
def asciiWord : Charset :=
  ofAll [digits, between 'A' 'Z', single '_', between 'a' 'z']

/-- The blanks that separate tokens: tab to carriage return, and space. -/
def blanks : Charset := [⟨9, 13⟩, ⟨32, 32⟩]

/-- The characters that may start an identifier, without the low line. -/
def identifierStart : Charset := ofRunsFrom 0 Text.identifierStartRuns

/-- The characters that may continue an identifier. -/
def identifierNext : Charset := ofRunsFrom 0 Text.identifierRuns

/-! ## Laws -/

@[simp]
theorem contains_nil (code : Nat) : contains [] code = false := rfl

theorem contains_single (char : Char) (code : Nat) :
    contains (single char) code = decide (code = char.toNat) := by
  simp only [single, contains]
  split
  · have different : code ≠ char.toNat := by omega
    simp [different]
  · split
    · have same : code = char.toNat := by omega
      simp [same]
    · have different : code ≠ char.toNat := by omega
      simp [different]

end Charset

end CrateShelf.Source
