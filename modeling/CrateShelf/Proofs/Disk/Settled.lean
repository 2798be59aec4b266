import CrateShelf.Proofs.Disk.Growth
import CrateShelf.Proofs.Location.Naming

/-!
# Where paths lead

The names of a path alone tell where it leads, if it leads anywhere: each name
is one step further and two dots are one step back, but for the root, which
has nothing above it.  A path that climbs above its start leads nowhere.

Main statements: the address that is found under a path is the one that its
names tell, and what can be put there has a directory to stand in.
-/

namespace CrateShelf

namespace FileTree

/-- Where one more name leads from an address. -/
def advance (reached : Address) (name : String) : Address :=
  if name ≠ ".." then reached ++ [name]
  else if reached = [] ∨ reached.getLast? = some ".." then reached ++ [".."]
  else if reached = [rootName] then reached
  else reached.dropLast

end FileTree

/-- Where a path leads, by its names alone.  Two dots stand only in front,
where they lead out of the working directory. -/
def DiskPath.settled (path : DiskPath) : Address :=
  path.parts.foldl FileTree.advance
    (if path.root = "" then [] else [FileTree.rootName])

namespace FileTree

variable
    {tree : FileTree}
    {current address reached : Address}
    {names : List String}
    {path : DiskPath}

/-- Names without a way back are appended. -/
theorem foldl_advance_of_plain
    (plain : ".." ∉ names) :
    names.foldl advance reached = reached ++ names := by
  induction names generalizing reached with
  | nil => simp
  | cons name names inductionStep =>
      rw [List.mem_cons, not_or] at plain
      have forth : name ≠ ".." := fun same => plain.1 same.symm
      rw [List.foldl_cons, inductionStep plain.2, advance, if_pos forth]
      simp

/-- A path that leads on without a way back. -/
theorem settled_down
    (plain : ".." ∉ names) :
    (path.down names).settled = path.settled ++ names := by
  unfold DiskPath.settled
  rw [DiskPath.down, List.foldl_append, foldl_advance_of_plain plain]

theorem advance_back
    (plain : ".." ∉ current)
    (some : current ≠ []) :
    advance current ".." =
      if current = [rootName] then current else current.dropLast := by
  have last : ¬ (current = [] ∨ current.getLast? = Option.some "..") := by
    rintro (none | back)
    · exact some none
    · exact plain (List.mem_of_getLast? back)
  rw [advance, if_neg (not_not.2 rfl), if_neg last]

/-- Names that are followed lead where they lead by themselves. -/
theorem Follows.foldl_advance
    (follows : tree.Follows current names address)
    (plain : ".." ∉ current) :
    names.foldl advance current = address := by
  induction follows with
  | here current => rfl
  | stay _ inductionStep =>
      rw [List.foldl_cons, advance_back plain (by simp), if_pos rfl]
      exact inductionStep plain
  | back some below _ inductionStep =>
      rw [List.foldl_cons, advance_back plain some, if_neg below]
      exact inductionStep fun member => plain (List.dropLast_subset _ member)
  | last forth short =>
      rw [List.foldl_cons, advance, if_pos forth, List.foldl_nil]
  | on forth short standing _ inductionStep =>
      rw [List.foldl_cons, advance, if_pos forth]
      apply inductionStep
      rw [List.mem_append, List.mem_singleton, not_or]
      exact ⟨plain, forth.symm⟩

/-- Whether an address is that of a directory or has a directory above it. -/
def IsHeld (tree : FileTree) (address : Address) : Prop :=
  tree.get? address = some .directory ∨
    ∃ holder name,
      holder ++ [name] = address ∧ tree.get? holder = some .directory

/-- What names lead to from a directory is held. -/
theorem Follows.isHeld
    (sound : tree.IsSound)
    (follows : tree.Follows current names address)
    (isDirectory : tree.get? current = some .directory) :
    tree.IsHeld address := by
  induction follows with
  | here current => exact Or.inl isDirectory
  | stay _ inductionStep => exact inductionStep isDirectory
  | @back current _ _ some _ _ inductionStep =>
      apply inductionStep
      cases current using List.reverseRecOn with
      | nil => exact absurd rfl some
      | append_singleton holder last _ =>
          rw [List.dropLast_concat]
          exact sound.held _ _ _ isDirectory
  | @last current name _ _ => exact Or.inr ⟨current, name, rfl, isDirectory⟩
  | on _ _ standing _ inductionStep => exact inductionStep standing

/-- Whether a tree is sound and the root, if it is known, is no file. -/
structure IsGrounded (tree : FileTree) : Prop where
  sound : tree.IsSound
  root : ∀ content, tree.get? [rootName] ≠ some (.file content)

/-- What is known of the root is that it is a directory. -/
theorem IsGrounded.get?_root
    (grounded : tree.IsGrounded)
    (known : (tree.get? [rootName]).isSome) :
    tree.get? [rootName] = some .directory := by
  cases standing : tree.get? [rootName] with
  | none =>
      rw [standing] at known
      cases known
  | some entry =>
      cases entry with
      | file content => exact absurd standing (grounded.root content)
      | directory => rfl

/-- What is listed in a tree tells whether it is grounded. -/
theorem isGrounded_of_held
    (apart : (tree.entries.map Prod.fst).Nodup)
    (named : [] ∉ tree.entries.map Prod.fst)
    (held : ∀ address ∈ tree.entries.map Prod.fst,
      tree.get? address.dropLast = some .directory)
    (root : tree.get? [rootName] = none) :
    tree.IsGrounded := by
  constructor
  · refine ⟨apart, named, ?_⟩
    intro address name entry standing
    rw [get?, if_neg (by simp), lookup_eq_some_iff_mem apart] at standing
    have holder := held _ (List.mem_map_of_mem standing)
    rwa [List.dropLast_concat] at holder
  · intro content
    rw [root]
    simp

/-- The names of a path are followed from a directory, which is the working
directory or the root. -/
theorem IsGrounded.of_origin
    (grounded : tree.IsGrounded)
    (begins : tree.origin? path = some current) :
    current = (if path.root = "" then [] else [rootName]) ∧
      tree.get? current = some .directory := by
  unfold origin? at begins
  split at begins
  · rename_i relative
    cases begins
    exact ⟨(if_pos relative).symm, tree.get?_root⟩
  · rename_i absolute
    split at begins
    · rename_i known
      cases begins
      exact ⟨(if_neg absolute).symm, grounded.get?_root known⟩
    · cases begins

/-- The address of a path is the one that its names tell, and it is held. -/
theorem settled_of_locate
    (grounded : tree.IsGrounded)
    (located : tree.locate path = .ok address) :
    path.settled = address ∧ tree.IsHeld address := by
  obtain ⟨_, origin, begins, follows⟩ := locate_eq_ok_iff.1 located
  obtain ⟨start, isDirectory⟩ := grounded.of_origin begins
  refine ⟨?_, follows.isHeld grounded.sound isDirectory⟩
  rw [DiskPath.settled, ← start]
  apply follows.foldl_advance
  rw [start]
  split
  · exact List.not_mem_nil
  · decide

theorem settled_of_find
    (grounded : tree.IsGrounded)
    {entry : Entry}
    (found : tree.find path = .ok (address, entry)) :
    path.settled = address :=
  (settled_of_locate grounded (find_eq_ok_iff.1 found).1).1

/-! ## Paths without a way back -/

theorem follows_of_file
    (sound : tree.IsSound)
    {content : Bytes}
    (isDirectory : tree.get? current = some .directory)
    (plain : ".." ∉ names)
    (brief : ∀ name ∈ names, name.utf8ByteSize ≤ longestName)
    (standing : tree.get? (current ++ names) = some (.file content)) :
    tree.Follows current names (current ++ names) := by
  apply follows_of_spelled sound isDirectory plain brief
  cases names using List.reverseRecOn with
  | nil =>
      rw [List.dropLast_nil, List.append_nil]
      exact isDirectory
  | append_singleton names name _ =>
      rw [← List.append_assoc] at standing
      rw [List.dropLast_concat]
      exact sound.held _ _ _ standing

/-- Where a file stands at the names of a path, the place is known that they
are followed from. -/
theorem IsGrounded.exists_origin
    (grounded : tree.IsGrounded)
    {content : Bytes}
    (plain : ".." ∉ path.parts)
    (standing : tree.get? path.settled = some (.file content)) :
    ∃ origin, tree.origin? path = some origin ∧
      path.settled = origin ++ path.parts := by
  rw [DiskPath.settled, foldl_advance_of_plain plain] at standing ⊢
  unfold origin?
  by_cases relative : path.root = ""
  · rw [if_pos relative, if_pos relative]
    exact ⟨[], rfl, rfl⟩
  · rw [if_neg relative] at standing ⊢
    have root : tree.get? [rootName] = some .directory := by
      cases parts : path.parts with
      | nil =>
          rw [parts, List.append_nil] at standing
          exact absurd standing (grounded.root content)
      | cons name names =>
          rw [parts] at standing
          exact grounded.sound.directory_of_append standing
            (List.cons_ne_nil _ _)
    rw [if_neg relative, if_pos (by rw [root]; rfl)]
    exact ⟨[rootName], rfl, rfl⟩

/-- Without a way back, what is read at a path is what stands where its names
tell. -/
theorem read_eq_ok_iff_of_plain
    (grounded : tree.IsGrounded)
    {content : Bytes}
    (plain : ".." ∉ path.parts) :
    tree.read path = .ok content ↔
      IsNameable { root := path.root } path.parts ∧
        tree.get? path.settled = some (.file content) := by
  rw [read_eq_ok_iff]
  constructor
  · rintro ⟨address, found⟩
    rcases find_eq_ok_iff.1 found with ⟨located, standing⟩
    obtain ⟨spellable, origin, begins, follows⟩ := locate_eq_ok_iff.1 located
    obtain ⟨_, isDirectory⟩ := grounded.of_origin begins
    obtain ⟨_, brief, _⟩ := follows.spells isDirectory plain
    rw [settled_of_find grounded found]
    exact ⟨⟨plain, spellable.valid, spellable.short, brief⟩, standing⟩
  · rintro ⟨nameable, standing⟩
    obtain ⟨origin, begins, settled⟩ :=
      grounded.exists_origin plain standing
    obtain ⟨_, isDirectory⟩ := grounded.of_origin begins
    have follows :
        tree.Follows origin path.parts path.settled := by
      rw [settled] at standing ⊢
      exact follows_of_file grounded.sound isDirectory plain nameable.each
        standing
    have located : tree.locate path = .ok path.settled :=
      locate_eq_ok_iff.2
        ⟨⟨nameable.valid, nameable.short⟩, origin, begins, follows⟩
    exact ⟨path.settled, find_eq_ok_iff.2 ⟨located, standing⟩⟩

end FileTree

end CrateShelf
