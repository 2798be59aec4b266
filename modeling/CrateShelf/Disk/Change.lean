import CrateShelf.Disk.FileTree

/-!
# Differences between trees of files

What has to be done to a disk that holds one tree of files so that it holds
another.  What is gone is removed first, each entry before the directory that
held it; then what is new is made, each entry after the directory that holds
it.
-/

namespace CrateShelf

/-- The path of an address. -/
def Address.toPath : Address → DiskPath
  | [] => {}
  | first :: rest =>
    if first = FileTree.rootName then ⟨first, rest⟩ else ⟨"", first :: rest⟩

/-- One step of a change. -/
inductive Change where
  | removeFile (path : DiskPath)
  | removeDirectory (path : DiskPath)
  | makeDirectory (path : DiskPath)
  | writeFile (path : DiskPath) (content : Bytes)
deriving DecidableEq, Repr

namespace Change

/-- The step that removes an entry. -/
def removal (address : Address) : Entry → Change
  | .file _ => .removeFile address.toPath
  | .directory => .removeDirectory address.toPath

/-- The step that makes an entry. -/
def creation (address : Address) : Entry → Change
  | .file content => .writeFile address.toPath content
  | .directory => .makeDirectory address.toPath

end Change

namespace FileTree

/-- Whether an entry of a tree has to go for another tree: a file may be
written over. -/
def isGone (after : FileTree) (address : Address) (entry : Entry) : Bool :=
  match after.get? address with
  | none => true
  | some other => entry.isFile != other.isFile

/-- The steps that lead from one tree to another. -/
def changesTo (before after : FileTree) : List Change :=
  let gone := before.entries.filter fun (address, entry) =>
    after.isGone address entry
  let made := after.entries.filter fun (address, entry) =>
    before.get? address != some entry
  gone.reverse.map (fun (address, entry) => Change.removal address entry) ++
    made.map fun (address, entry) => Change.creation address entry

/-- An empty tree is filled by making its entries in order. -/
theorem changesTo_of_empty (after : FileTree)
    (named : ∀ known ∈ after.entries, known.1 ≠ []) :
    (FileTree.mk []).changesTo after =
      after.entries.map fun (address, entry) =>
        Change.creation address entry := by
  have all : after.entries.filter
      (fun known => (FileTree.mk []).get? known.1 != some known.2) =
      after.entries := by
    refine List.filter_eq_self.2 fun known member => ?_
    simp [get?, named known member]
  simp only [changesTo, List.filter_nil, List.reverse_nil, List.map_nil,
    List.nil_append]
  exact congrArg _ all

end FileTree

end CrateShelf
