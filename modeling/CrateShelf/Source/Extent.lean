/-!
# Stretches of a source text

How far a stretch of text reaches: in characters, in bytes and in lines.
Every tree that is read from a text knows its extent, and so do the places
where reading goes on.

Main statement: the extent of a text is the sum of the extents of its parts.
-/

namespace CrateShelf.Source

/-- How far a stretch of text reaches. -/
structure Extent where
  chars : Nat := 0
  bytes : Nat := 0
  /-- The number of line ends. -/
  rows : Nat := 0
deriving DecidableEq, Repr, Inhabited

namespace Extent

/-- One stretch after another. -/
def add (extent other : Extent) : Extent :=
  ⟨extent.chars + other.chars, extent.bytes + other.bytes,
    extent.rows + other.rows⟩

instance : Add Extent := ⟨add⟩

/-- The extent of one character. -/
def ofChar (char : Char) : Extent :=
  ⟨1, char.utf8Size, if char = '\n' then 1 else 0⟩

/-- The extent of a text. -/
def ofChars (text : List Char) : Extent :=
  text.foldl (fun extent char => extent + ofChar char) {}

@[simp]
theorem add_zero (extent : Extent) : extent + {} = extent := rfl

@[simp]
theorem zero_add (extent : Extent) : ({} : Extent) + extent = extent := by
  change add {} extent = extent
  simp [add]

theorem add_assoc (first second third : Extent) :
    first + second + third = first + (second + third) := by
  change add (add first second) third = add first (add second third)
  simp [add, Nat.add_assoc]

/-- Counting may start from any extent. -/
theorem foldl_ofChar (text : List Char) (start : Extent) :
    text.foldl (fun extent char => extent + ofChar char) start =
      start + ofChars text := by
  induction text generalizing start with
  | nil => rfl
  | cons char rest ih =>
    rw [ofChars, List.foldl_cons, List.foldl_cons, ih, ih ({} + ofChar char),
      zero_add, add_assoc]

/-- The extent of a text is the sum of the extents of its parts. -/
theorem ofChars_append (front back : List Char) :
    ofChars (front ++ back) = ofChars front + ofChars back := by
  rw [ofChars, List.foldl_append]
  exact foldl_ofChar back (ofChars front)

end Extent

/-- A source text, so laid out that reading can go on at any character. -/
structure SourceText where
  /-- What is left of the text after each number of characters. -/
  rests : Array (List Char)

namespace SourceText

/-- What is left of a text, after one character less each time. -/
def tails : List Char → List (List Char)
  | [] => [[]]
  | char :: rest => (char :: rest) :: tails rest

/-- Lays out a text. -/
def ofString (text : String) : SourceText := ⟨(tails text.toList).toArray⟩

/-- What is left of the text after a number of characters. -/
def rest (text : SourceText) (chars : Nat) : List Char :=
  text.rests.getD chars []

/-- The characters between two places. -/
def slice (text : SourceText) (start stop : Extent) : List Char :=
  (text.rest start.chars).take (stop.chars - start.chars)

end SourceText

end CrateShelf.Source
