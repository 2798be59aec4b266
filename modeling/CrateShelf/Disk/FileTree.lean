import CrateShelf.Bytes
import CrateShelf.Disk.Path
import CrateShelf.Text.Quoted

/-!
# A tree of files

Directories and files below a working directory, each found under the list of
names that lead to it.  What is outside the working directory may be known
too, under names that start at the root.  What an operation refuses to do is
a fault with the path that was asked for.
-/

namespace CrateShelf

/-- Why the file system refuses an operation. -/
inductive DiskCause where
  | missing
  | taken
  | notDirectory
  | isDirectory
  | nameTooLong
  | notEmpty
  /-- No entry can have such a name. -/
  | invalidName
deriving DecidableEq, Repr

namespace DiskCause

/-- The number of a cause. -/
def number : DiskCause → Nat
  | missing => 2
  | taken => 17
  | notDirectory => 20
  | isDirectory => 21
  | nameTooLong => 36
  | notEmpty => 39
  | invalidName => 22

/-- The wording of a cause. -/
def wording : DiskCause → String
  | missing => "No such file or directory"
  | taken => "File exists"
  | notDirectory => "Not a directory"
  | isDirectory => "Is a directory"
  | nameTooLong => "File name too long"
  | notEmpty => "Directory not empty"
  | invalidName => "embedded null byte"

end DiskCause

/-- An operation that the file system refused. -/
structure DiskFault where
  cause : DiskCause
  path : DiskPath
  /-- The second path of an operation on two. -/
  target : Option DiskPath := none
  /-- The faults that were to be mended when this one arose, the last
  first. -/
  earlier : List (DiskCause × DiskPath) := []
deriving DecidableEq, Repr

/-- The wording of a cause at a path. -/
def DiskCause.message (cause : DiskCause) (path : DiskPath) : String :=
  if cause = .invalidName then cause.wording
  else
    "[Errno " ++ toString cause.number ++ "] " ++ cause.wording ++ ": " ++
      quote path.toText

/-- The wording of a fault. -/
def DiskFault.message (fault : DiskFault) : String :=
  fault.cause.message fault.path ++
    match fault.target with
    | some path => " -> " ++ quote path.toText
    | none => ""

/-- The wording of a fault and of those before it. -/
def DiskFault.messages (fault : DiskFault) : List String :=
  fault.message :: fault.earlier.map fun (cause, path) => cause.message path

/-- The names that lead from the working directory to an entry.  The first
may be that of the root. -/
abbrev Address := List String

/-- What stands at an address. -/
inductive Entry where
  | file (content : Bytes)
  | directory
deriving DecidableEq, Repr

/-- Whether an entry is a file. -/
def Entry.isFile : Entry → Bool
  | .file _ => true
  | .directory => false

/-- The files and directories below a working directory, each listed after
the directory that holds it. -/
structure FileTree where
  entries : List (Address × Entry) := []
deriving DecidableEq, Repr, Inhabited

namespace FileTree

/-- The name of the root of all directories. -/
def rootName : String := "/"

/-- The longest name of an entry, in bytes. -/
def longestName : Nat := 255

/-- The longest path of an entry, in bytes. -/
def longestPath : Nat := 4095

/-- Whether a name holds a character that no name can hold. -/
def isInvalid (name : String) : Bool :=
  name.toList.any fun char => char.toNat = 0

/-- What stands at an address. -/
def get? (tree : FileTree) (address : Address) : Option Entry :=
  if address = [] then some .directory else tree.entries.lookup address

/-- The tree with an entry put at an address. -/
def insert (tree : FileTree) (address : Address) (entry : Entry) :
    FileTree :=
  if tree.entries.any fun known => known.1 = address then
    ⟨tree.entries.map fun known =>
      if known.1 = address then (address, entry) else known⟩
  else ⟨tree.entries ++ [(address, entry)]⟩

/-- The tree without an address and everything below it. -/
def erase (tree : FileTree) (address : Address) : FileTree :=
  ⟨tree.entries.filter fun known => !address.isPrefixOf known.1⟩

/-- The address that names lead to from a directory, where the last name need
not be taken. -/
def walk (tree : FileTree) : Address → List String →
    Except DiskCause Address
  | current, [] => .ok current
  | current, part :: rest =>
    if part = ".." then
      if current.isEmpty then .error .missing
      else if current = [rootName] then walk tree current rest
      else walk tree current.dropLast rest
    else if longestName < part.utf8ByteSize then .error .nameTooLong
    else
      let next := current ++ [part]
      if rest.isEmpty then .ok next
      else
        match tree.get? next with
        | none => .error .missing
        | some (.file _) => .error .notDirectory
        | some .directory => walk tree next rest

/-- The address of a path.  Outside the working directory there is nothing
unless the root is known. -/
def locate (tree : FileTree) (path : DiskPath) : Except DiskCause Address :=
  if path.parts.any isInvalid then .error .invalidName
  else if longestPath < path.toText.utf8ByteSize then .error .nameTooLong
  else if path.root = "" then tree.walk [] path.parts
  else if (tree.get? [rootName]).isSome then
    tree.walk [rootName] path.parts
  else .error .missing

/-- What stands at a path, and its address. -/
def find (tree : FileTree) (path : DiskPath) :
    Except DiskCause (Address × Entry) := do
  let address ← tree.locate path
  match tree.get? address with
  | some entry => return (address, entry)
  | none => throw .missing

/-- Names a path as the one that a fault is about. -/
def blame {α : Type} (path : DiskPath) (result : Except DiskCause α) :
    Except DiskFault α :=
  result.mapError fun cause => { cause, path }

/-- What stands at a path, if anything does.  A name that is too long is a
fault even here. -/
def entryAt (tree : FileTree) (path : DiskPath) :
    Except DiskFault (Option Entry) :=
  match tree.find path with
  | .ok (_, entry) => .ok (some entry)
  | .error .nameTooLong => .error { cause := .nameTooLong, path }
  | .error _ => .ok none

/-- Whether anything stands at a path. -/
def isTaken (tree : FileTree) (path : DiskPath) : Except DiskFault Bool := do
  return (← tree.entryAt path).isSome

/-- Whether a file stands at a path. -/
def isFile (tree : FileTree) (path : DiskPath) : Except DiskFault Bool := do
  return (← tree.entryAt path).any Entry.isFile

/-- Whether a directory stands at a path. -/
def isDirectory (tree : FileTree) (path : DiskPath) :
    Except DiskFault Bool := do
  return (← tree.entryAt path) == some .directory

/-- The content of a file. -/
def read (tree : FileTree) (path : DiskPath) : Except DiskFault Bytes :=
  blame path do
    match ← tree.find path with
    | (_, .file content) => return content
    | (_, .directory) => throw .isDirectory

/-- The tree with a file written; its directory must be there. -/
def write (tree : FileTree) (path : DiskPath) (content : Bytes) :
    Except DiskFault FileTree :=
  blame path do
    let address ← tree.locate path
    match tree.get? address with
    | some .directory => throw .isDirectory
    | _ => return tree.insert address (.file content)

/-- The tree with one more directory, which must not be there. -/
def makeDirectory (tree : FileTree) (path : DiskPath) :
    Except DiskFault FileTree :=
  blame path do
    let address ← tree.locate path
    match tree.get? address with
    | some _ => throw .taken
    | none => return tree.insert address .directory

/-- The tree with a directory, which may be there already; its parent must
be. -/
def ensureDirectory (tree : FileTree) (path : DiskPath) :
    Except DiskFault FileTree :=
  match tree.makeDirectory path with
  | .ok changed => .ok changed
  | .error fault =>
    if fault.cause = .missing || fault.cause = .invalidName then .error fault
    else
      match tree.isDirectory path with
      | .ok true => .ok tree
      | .ok false => .error fault
      | .error later =>
        .error { later with earlier := [(fault.cause, fault.path)] }

/-- The tree with a directory and all directories above it, given the number
of names to go up at most. -/
def ensureFrom (tree : FileTree) (path : DiskPath) :
    Nat → Except DiskFault FileTree
  | 0 => tree.ensureDirectory path
  | count + 1 =>
    match tree.ensureDirectory path with
    | .ok changed => .ok changed
    | .error fault =>
      if fault.cause = .missing ∧ path.parts ≠ [] then
        let mended : Except DiskFault FileTree := do
          let above ← tree.ensureFrom path.parent count
          above.ensureDirectory path
        mended.mapError fun later => { later with
          earlier := later.earlier ++ [(fault.cause, fault.path)] }
      else .error fault

/-- The tree with a directory and all directories above it. -/
def ensureDirectories (tree : FileTree) (path : DiskPath) :
    Except DiskFault FileTree :=
  tree.ensureFrom path path.parts.length

/-- The tree with a file written and all directories above it. -/
def place (tree : FileTree) (path : DiskPath) (content : Bytes) :
    Except DiskFault FileTree := do
  let above ← tree.ensureDirectories path.parent
  above.write path content

/-- The tree without a directory and everything in it. -/
def removeTree (tree : FileTree) (path : DiskPath) :
    Except DiskFault FileTree :=
  blame path do
    match ← tree.find path with
    | (_, .file _) => throw .notDirectory
    | (address, .directory) => return tree.erase address

/-- The tree without a file or without a directory and everything in it. -/
def remove (tree : FileTree) (path : DiskPath) :
    Except DiskFault FileTree :=
  blame path do
    let (address, _) ← tree.find path
    return tree.erase address

/-- The tree with everything below one address moved below another. -/
def moveEntries (tree : FileTree) (source target : Address) : FileTree :=
  let moved := tree.entries.filterMap fun (address, entry) =>
    if source.isPrefixOf address then
      some (target ++ address.drop source.length, entry)
    else none
  ⟨((tree.erase source).erase target).entries ++ moved⟩

/-- The tree with a file or directory moved; a file in the way is replaced. -/
def rename (tree : FileTree) (source target : DiskPath) :
    Except DiskFault FileTree :=
  let result : Except DiskCause FileTree := do
    let (start, entry) ← tree.find source
    let finish ← tree.locate target
    match entry, tree.get? finish with
    | .file _, some .directory => throw .isDirectory
    | .directory, some (.file _) => throw .notDirectory
    | .directory, some .directory =>
      if tree.entries.any fun known =>
          finish.isPrefixOf known.1 && known.1 != finish then
        throw .notEmpty
      else return tree.moveEntries start finish
    | _, _ => return tree.moveEntries start finish
  result.mapError fun cause => { cause, path := source, target }

/-- The names in a directory. -/
def children (tree : FileTree) (address : Address) : List String :=
  tree.entries.filterMap fun (known, _) =>
    if known.dropLast = address then known.getLast? else none

/-- The addresses of everything below an address, without it. -/
def below (tree : FileTree) (address : Address) : List (Address × Entry) :=
  tree.entries.filter fun known =>
    address.isPrefixOf known.1 && known.1 != address

/-- The paths of what is in a directory. -/
def list (tree : FileTree) (path : DiskPath) : List DiskPath :=
  match tree.find path with
  | .ok (address, .directory) =>
    (tree.children address).map fun name =>
      { path with parts := path.parts ++ [name] }
  | _ => []

/-- The paths of everything below a directory, with what stands there. -/
def descend (tree : FileTree) (path : DiskPath) :
    List (DiskPath × Entry) :=
  match tree.find path with
  | .ok (address, .directory) =>
    (tree.below address).map fun (known, entry) =>
      ({ path with parts := path.parts ++ known.drop address.length }, entry)
  | _ => []

@[simp]
theorem get?_root (tree : FileTree) : tree.get? [] = some .directory := by
  simp [get?]

/-- What was put at an address stands there. -/
theorem get?_insert_self (tree : FileTree) (address : Address)
    (entry : Entry) (below : address ≠ []) :
    (tree.insert address entry).get? address = some entry := by
  simp only [get?, below, if_false]
  unfold insert
  split
  · rename_i taken
    simp only [List.any_eq_true, decide_eq_true_eq] at taken
    obtain ⟨known, member, same⟩ := taken
    revert member
    induction tree.entries with
    | nil => simp
    | cons head rest inductionStep =>
      intro member
      simp only [List.map_cons]
      by_cases headSame : head.1 = address
      · simp [headSame]
      · have inRest : known ∈ rest := by
          rcases List.mem_cons.1 member with isHead | later
          · exact absurd (isHead ▸ same) headSame
          · exact later
        have different : (address == head.1) = false := by
          simp [Ne.symm headSame]
        simp only [headSame, if_false]
        rw [List.lookup_cons, different]
        exact inductionStep inRest
  · rename_i free
    simp only [List.any_eq_true, decide_eq_true_eq, not_exists,
      not_and] at free
    revert free
    induction tree.entries with
    | nil => simp
    | cons head rest inductionStep =>
      intro free
      have different : (address == head.1) = false := by
        have apart := free head (by simp)
        simp [Ne.symm apart]
      rw [List.cons_append, List.lookup_cons, different]
      exact inductionStep fun known member =>
        free known (List.mem_cons_of_mem _ member)

end FileTree

end CrateShelf
