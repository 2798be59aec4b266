import CrateShelf.Proofs.Location.Naming
import CrateShelf.Proofs.Outcome
import CrateShelf.Tree.Visit

/-!
# The files of modules by name

A module without an attribute that names its file is looked for in two files
of its name.  Either leads to the same directory for the modules inside, and
this is the one that a module with a body has in its place.

Main statement: the directory of the children of a module that is found by its
name is the one below its parent's with this name.
-/

namespace CrateShelf

/-- A name is one part of a path and has no ending. -/
structure IsWord (name : String) : Prop where
  filled : name ≠ ""
  whole : '/' ∉ name.toList
  bare : '.' ∉ name.toList

namespace IsWord

variable {name : String}

theorem child_eq (word : IsWord name) (path : DiskPath) :
    path.child name = path.down [name] :=
  DiskPath.child_of_not_mem path word.whole word.filled fun dot =>
    word.bare (by simp [dot])

theorem child_file_eq (word : IsWord name) (path : DiskPath) :
    path.child (name ++ ".rs") = path.down [name ++ ".rs"] := by
  refine DiskPath.child_of_not_mem path ?_ ?_ ?_
  · simp [word.whole]
  · intro none
    simpa using congrArg String.toList none
  · intro dot
    have lengths := congrArg (·.toList.length) dot
    simp at lengths

/-- The ending of a file is cut off. -/
theorem stem_file (word : IsWord name) (path : DiskPath) :
    (path.down [name ++ ".rs"]).stem = name := by
  have length : name.toList.length ≠ 0 := by
    simpa using word.filled
  have ending : (name ++ ".rs").toList.reverse.takeWhile (· != '.') =
      ['s', 'r'] := by
    simp [String.toList_append]
  have letters : (name ++ ".rs").toList.length = name.toList.length + 3 := by
    simp
  unfold DiskPath.stem
  rw [DiskPath.name_down]
  dsimp only
  rw [ending, letters, if_pos ⟨by simp; omega, by simp⟩]
  simp

end IsWord

namespace Tree

/-- A text with one sort of line end is read as it was encoded. -/
theorem readText_of_read
    {files : FileTree}
    {path : DiskPath}
    {text : String}
    (read : files.read path = .ok (Bytes.ofText text))
    (lines : Text.unifyLineEnds text.toList = text.toList) :
    readText files path = .ok text := by
  simp only [readText, read, Except.mapError, ok_bind, Bytes.decodeText_ofText,
    lines, String.ofList_toList, pure_eq_ok]

/-- The names of files that stand for their directories. -/
def ownNames : List String := ["mod", "lib", "main"]

theorem childDirectory_file
    {name : String}
    (word : IsWord name)
    (others : name ∉ ownNames)
    (directory : DiskPath) :
    childDirectory (directory.child (name ++ ".rs")) =
      directory.child name := by
  rw [word.child_file_eq, childDirectory, if_neg, DiskPath.parent_down,
    word.stem_file]
  intro own
  have files : ["mod.rs", "lib.rs", "main.rs"] =
      ownNames.map (· ++ ".rs") := by
    decide
  rw [DiskPath.name_down, files, List.mem_map] at own
  obtain ⟨other, member, same⟩ := own
  rw [String.append_left_inj] at same
  exact others (same ▸ member)

theorem childDirectory_mod
    (directory : DiskPath) :
    childDirectory (directory.child "mod.rs") = directory := by
  rw [DiskPath.child_of_not_mem directory (by decide) (by decide) (by decide),
    childDirectory, DiskPath.name_down, if_pos (by decide),
    DiskPath.parent_down]

/-- The directory of the children of a module that is found by its name. -/
theorem childDirectory_of_mem_moduleFiles
    {name : String}
    (word : IsWord name)
    (others : name ∉ ownNames)
    {directory file path : DiskPath}
    (candidate : path ∈ moduleFiles directory file name none) :
    childDirectory path = directory.child name := by
  rw [moduleFiles, Option.filter_none, List.mem_cons,
    List.mem_singleton] at candidate
  rcases candidate with rfl | rfl
  · exact childDirectory_file word others directory
  · exact childDirectory_mod (directory.child name)

end Tree

end CrateShelf
