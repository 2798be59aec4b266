import CrateShelf.Text.Split

/-!
# Item paths

An item path such as `crate::module::Item` is a list of segments.  The first
segment of the path of an indexed item is the crate, so the crate's root
module has a path of one segment.

Main statement: reading the written form of a path gives the path back, if
no segment is empty or holds a colon.
-/

namespace CrateShelf

/-- A path: the segments from the crate down to the item. -/
structure ItemPath where
  segments : List String
deriving DecidableEq, Repr, Inhabited, Hashable

namespace ItemPath

/-- The path without segments. -/
def empty : ItemPath := ⟨[]⟩

/-- The path of one segment. -/
def single (segment : String) : ItemPath := ⟨[segment]⟩

/-- Reads `a::b::c`; empty segments are left out. -/
def parse (text : String) : ItemPath :=
  ⟨((Text.splitAtPair ':' text.toList).filter (! ·.isEmpty)).map
    String.ofList⟩

/-- The path with one more segment at its end. -/
def push (path : ItemPath) (segment : String) : ItemPath :=
  ⟨path.segments ++ [segment]⟩

/-- The path with one more segment, which must not be empty. -/
def push? (path : ItemPath) (segment : String) : Option ItemPath :=
  if segment = "" then none else some (path.push segment)

/-- The path without its last segment. -/
def pop (path : ItemPath) : ItemPath :=
  ⟨path.segments.dropLast⟩

/-- The enclosing path; the empty path has none. -/
def parent? (path : ItemPath) : Option ItemPath :=
  if path.segments.isEmpty then none else some path.pop

/-- The first segment. -/
def head? (path : ItemPath) : Option String :=
  path.segments.head?

/-- The last segment. -/
def name? (path : ItemPath) : Option String :=
  path.segments.getLast?

/-- The path without its first segment. -/
def tail (path : ItemPath) : ItemPath :=
  ⟨path.segments.tail⟩

/-- One path followed by another. -/
def join (first second : ItemPath) : ItemPath :=
  ⟨first.segments ++ second.segments⟩

/-- Whether `front` is a leading part of the path. -/
def startsWith (path front : ItemPath) : Bool :=
  front.segments.isPrefixOf path.segments

/-- The number of segments. -/
def length (path : ItemPath) : Nat :=
  path.segments.length

/-- The written form, with `::` between the segments. -/
def toText (path : ItemPath) : String :=
  "::".intercalate path.segments

/-- The path as a relative directory: every segment is followed by a
slash. -/
def toDirectory (path : ItemPath) : String :=
  String.join (path.segments.map (· ++ "/"))

/-- Paths are ordered by their first segments that differ; a leading part
comes first. -/
def less (first second : ItemPath) : Bool :=
  decide (first.segments < second.segments)

instance : ToString ItemPath := ⟨toText⟩

@[simp]
theorem segments_push (path : ItemPath) (segment : String) :
    (path.push segment).segments = path.segments ++ [segment] := rfl

@[simp]
theorem segments_join (first second : ItemPath) :
    (first.join second).segments = first.segments ++ second.segments := rfl

@[simp]
theorem pop_push (path : ItemPath) (segment : String) :
    (path.push segment).pop = path := by
  simp [pop, push]

@[simp]
theorem name?_push (path : ItemPath) (segment : String) :
    (path.push segment).name? = some segment := by
  simp [name?, push]

@[simp]
theorem parent?_push (path : ItemPath) (segment : String) :
    (path.push segment).parent? = some path := by
  simp [parent?, push, pop]

@[simp]
theorem join_empty (path : ItemPath) : path.join empty = path := by
  simp [join, empty]

@[simp]
theorem empty_join (path : ItemPath) : empty.join path = path := by
  simp [join, empty]

theorem join_assoc (first second third : ItemPath) :
    (first.join second).join third = first.join (second.join third) := by
  simp [join]

/-- A path starts with another exactly when it continues it. -/
theorem startsWith_iff (path front : ItemPath) :
    path.startsWith front = true ↔ ∃ rest, path = front.join rest := by
  constructor
  · intro starts
    obtain ⟨rest, equal⟩ :=
      (List.isPrefixOf_iff_prefix.1 starts)
    exact ⟨⟨rest⟩, by cases path; simpa [join] using equal.symm⟩
  · rintro ⟨rest, rfl⟩
    exact List.isPrefixOf_iff_prefix.2 (List.prefix_append _ _)

end ItemPath

end CrateShelf
