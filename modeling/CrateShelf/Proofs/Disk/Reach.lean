import CrateShelf.Proofs.Disk.FileTree
import CrateShelf.Proofs.Outcome

/-!
# Reaching entries by paths

A path is followed name by name, starting at a directory whose own path is
known.  Names that are two dots lead back and may only be in the part of the
path that leads to that directory.

Main statements: in a sound tree a path leads to the address that its names
spell, and what the disk says of a path is what stands there.
-/

namespace CrateShelf

/-- The path that leads on from a path by some names. -/
def DiskPath.down (path : DiskPath) (names : List String) : DiskPath :=
  { path with parts := path.parts ++ names }

namespace DiskPath

@[simp]
theorem down_nil (path : DiskPath) : path.down [] = path := by
  simp [down]

@[simp]
theorem down_down
    (path : DiskPath)
    (names more : List String) :
    (path.down names).down more = path.down (names ++ more) := by
  simp [down]

theorem name_down (path : DiskPath) (name : String) :
    (path.down [name]).name = name := by
  simp [DiskPath.name, down]

theorem parent_down (path : DiskPath) (name : String) :
    (path.down [name]).parent = path := by
  simp [parent, down]

end DiskPath

namespace FileTree

variable
    {tree : FileTree}
    {current address middle : Address}
    {entry : Entry}

/-! ## Following names -/

theorem walk_cons
    (tree : FileTree)
    (current : Address)
    (name : String)
    (names : List String) :
    tree.walk current (name :: names) =
      if name = ".." then
        if current.isEmpty then .error .missing
        else if current = [rootName] then tree.walk current names
        else tree.walk current.dropLast names
      else if longestName < name.utf8ByteSize then .error .nameTooLong
      else if names.isEmpty then .ok (current ++ [name])
      else
        match tree.get? (current ++ [name]) with
        | none => .error .missing
        | some (.file _) => .error .notDirectory
        | some .directory => tree.walk (current ++ [name]) names :=
  walk.eq_2 tree current name names

theorem walk_stay
    (tree : FileTree)
    (names : List String) :
    tree.walk [rootName] (".." :: names) = tree.walk [rootName] names := by
  rw [walk_cons, if_pos rfl, if_neg (by simp), if_pos rfl]

theorem walk_back
    (some : current ≠ [])
    (below : current ≠ [rootName])
    (names : List String) :
    tree.walk current (".." :: names) = tree.walk current.dropLast names := by
  rw [walk_cons, if_pos rfl, if_neg (by simpa using some), if_neg below]

theorem walk_last
    {name : String}
    (forth : name ≠ "..")
    (short : name.utf8ByteSize ≤ longestName) :
    tree.walk current [name] = .ok (current ++ [name]) := by
  rw [walk_cons, if_neg forth, if_neg (Nat.not_lt.2 short)]
  rfl

theorem walk_on
    {name : String}
    (forth : name ≠ "..")
    (short : name.utf8ByteSize ≤ longestName)
    (standing : tree.get? (current ++ [name]) = some .directory)
    (next : String)
    (names : List String) :
    tree.walk current (name :: next :: names) =
      tree.walk (current ++ [name]) (next :: names) := by
  rw [walk_cons, if_neg forth, if_neg (Nat.not_lt.2 short),
    if_neg (by simp), standing]

/-- Names lead from a directory to an address.  Two dots lead back, though not
out of the root; the last name need not be taken. -/
inductive Follows (tree : FileTree) :
    Address → List String → Address → Prop where
  | here (current : Address) :
    Follows tree current [] current
  | stay {names : List String} {address : Address}
      (more : Follows tree [rootName] names address) :
    Follows tree [rootName] (".." :: names) address
  | back {current address : Address} {names : List String}
      (some : current ≠ []) (below : current ≠ [rootName])
      (more : Follows tree current.dropLast names address) :
    Follows tree current (".." :: names) address
  | last {current : Address} {name : String}
      (forth : name ≠ "..") (short : name.utf8ByteSize ≤ longestName) :
    Follows tree current [name] (current ++ [name])
  | on {current address : Address} {name next : String}
      {names : List String}
      (forth : name ≠ "..") (short : name.utf8ByteSize ≤ longestName)
      (standing : tree.get? (current ++ [name]) = some .directory)
      (more : Follows tree (current ++ [name]) (next :: names) address) :
    Follows tree current (name :: next :: names) address

theorem follows_of_walk
    {names : List String}
    (walked : tree.walk current names = .ok address) :
    tree.Follows current names address := by
  induction names generalizing current with
  | nil =>
      cases walked
      exact .here _
  | cons name names inductionStep =>
      rw [walk_cons] at walked
      split at walked
      · rename_i back
        subst back
        split at walked
        · cases walked
        · rename_i some
          split at walked
          · rename_i root
            subst root
            exact .stay (inductionStep walked)
          · rename_i below
            exact .back (by simpa using some) below (inductionStep walked)
      · rename_i forth
        split at walked
        · cases walked
        · rename_i short
          cases names with
          | nil =>
              cases walked
              exact .last forth (Nat.not_lt.1 short)
          | cons next names =>
              rw [if_neg (by simp)] at walked
              split at walked
              · cases walked
              · cases walked
              · rename_i standing
                exact .on forth (Nat.not_lt.1 short) standing
                  (inductionStep walked)

namespace Follows

variable
    {names : List String}

theorem walk_eq
    (follows : tree.Follows current names address) :
    tree.walk current names = .ok address := by
  induction follows with
  | here current => rfl
  | stay _ inductionStep => rw [walk_stay, inductionStep]
  | back some below _ inductionStep => rw [walk_back some below, inductionStep]
  | last forth short => exact walk_last forth short
  | on forth short standing _ inductionStep =>
      rw [walk_on forth short standing, inductionStep]

/-- Where the first names lead to a directory, the others are followed from
there. -/
theorem walk_append
    (follows : tree.Follows current names middle)
    (isDirectory : tree.get? middle = some .directory)
    (more : List String) :
    tree.walk current (names ++ more) = tree.walk middle more := by
  induction follows with
  | here current => rfl
  | stay _ inductionStep =>
      rw [List.cons_append, walk_stay, inductionStep isDirectory]
  | back some below _ inductionStep =>
      rw [List.cons_append, walk_back some below, inductionStep isDirectory]
  | @last current name forth short =>
      cases more with
      | nil => exact walk_last forth short
      | cons first more => exact walk_on forth short isDirectory first more
  | on forth short standing _ inductionStep =>
      rw [← inductionStep isDirectory]
      exact walk_on forth short standing _ _

/-- Following names only asks where directories are. -/
theorem of_kept
    {later : FileTree}
    (follows : tree.Follows current names address)
    (kept : ∀ place, tree.get? place = some .directory →
      later.get? place = some .directory) :
    later.Follows current names address := by
  induction follows with
  | here current => exact .here current
  | stay _ inductionStep => exact .stay inductionStep
  | back some below _ inductionStep => exact .back some below inductionStep
  | last forth short => exact .last forth short
  | on forth short standing _ inductionStep =>
      exact .on forth short (kept _ standing) inductionStep

/-- Names without a way back spell the address that they lead to; all but the
last are those of directories. -/
theorem spells
    (follows : tree.Follows current names address)
    (isDirectory : tree.get? current = some .directory)
    (plain : ".." ∉ names) :
    current ++ names = address ∧
      (∀ name ∈ names, name.utf8ByteSize ≤ longestName) ∧
      tree.get? (current ++ names.dropLast) = some .directory := by
  induction follows with
  | here current => simpa using isDirectory
  | stay | back => exact absurd List.mem_cons_self plain
  | last forth short => simp [short, isDirectory]
  | on forth short standing _ inductionStep =>
      obtain ⟨rfl, each, above⟩ :=
        inductionStep standing fun member =>
          plain (List.mem_cons_of_mem _ member)
      refine ⟨by simp, List.forall_mem_cons.2 ⟨short, each⟩, ?_⟩
      simpa using above

end Follows

theorem follows_iff_walk_eq
    {names : List String} :
    tree.Follows current names address ↔
      tree.walk current names = .ok address :=
  ⟨Follows.walk_eq, follows_of_walk⟩

/-- Names without a way back lead to the address that they spell, if all but
the last are those of directories. -/
theorem follows_of_spelled
    (sound : tree.IsSound)
    {names : List String}
    (isDirectory : tree.get? current = some .directory)
    (plain : ".." ∉ names)
    (each : ∀ name ∈ names, name.utf8ByteSize ≤ longestName)
    (above : tree.get? (current ++ names.dropLast) = some .directory) :
    tree.Follows current names (current ++ names) := by
  induction names generalizing current with
  | nil =>
      rw [List.append_nil]
      exact .here current
  | cons name names inductionStep =>
      rw [List.mem_cons, not_or] at plain
      rw [List.forall_mem_cons] at each
      have forth : name ≠ ".." := fun same => plain.1 same.symm
      cases names with
      | nil => exact .last forth each.1
      | cons next names =>
          have holder :
              tree.get? ((current ++ [name]) ++ (next :: names).dropLast) =
                some .directory := by
            simpa using above
          have standing :
              tree.get? (current ++ [name]) = some .directory := by
            cases names with
            | nil => simpa using holder
            | cons third names =>
                exact sound.directory_of_append holder (by simp)
          have further := inductionStep standing plain.2 each.2 holder
          rw [List.append_assoc, List.singleton_append] at further
          exact .on forth each.1 standing further

/-! ## The address of a path -/

/-- Whether a path is not refused for how it is written. -/
structure IsSpellable (path : DiskPath) : Prop where
  valid : path.parts.any isInvalid = false
  short : path.toText.utf8ByteSize ≤ longestPath

/-- Where the names of a path are followed from, if that is known. -/
def origin? (tree : FileTree) (path : DiskPath) : Option Address :=
  if path.root = "" then some []
  else if (tree.get? [rootName]).isSome then some [rootName]
  else none

theorem locate_eq_ok_iff
    {path : DiskPath} :
    tree.locate path = .ok address ↔
      IsSpellable path ∧
        ∃ origin, tree.origin? path = some origin ∧
          tree.Follows origin path.parts address := by
  constructor
  · intro located
    unfold locate at located
    split at located
    · cases located
    · rename_i valid
      split at located
      · cases located
      · rename_i short
        refine ⟨⟨Bool.eq_false_iff.2 valid, Nat.not_lt.1 short⟩, ?_⟩
        unfold origin?
        split at located
        · rename_i relative
          exact ⟨[], if_pos relative, follows_of_walk located⟩
        · rename_i absolute
          rw [if_neg absolute]
          split at located
          · rename_i known
            exact ⟨[rootName], if_pos known, follows_of_walk located⟩
          · cases located
  · rintro ⟨⟨valid, short⟩, origin, begins, follows⟩
    rw [locate, if_neg (Bool.eq_false_iff.1 valid),
      if_neg (Nat.not_lt.2 short)]
    unfold origin? at begins
    split at begins
    · rename_i relative
      cases begins
      rw [if_pos relative, follows.walk_eq]
    · rename_i absolute
      rw [if_neg absolute]
      split at begins
      · rename_i known
        cases begins
        rw [if_pos known, follows.walk_eq]
      · cases begins

/-- A path leads to the same address as long as directories are kept. -/
theorem locate_of_kept
    {later : FileTree}
    {path : DiskPath}
    (kept : ∀ place, tree.get? place = some .directory →
      later.get? place = some .directory)
    (root : (tree.get? [rootName]).isSome → (later.get? [rootName]).isSome)
    (located : tree.locate path = .ok address) :
    later.locate path = .ok address := by
  obtain ⟨spellable, origin, begins, follows⟩ := locate_eq_ok_iff.1 located
  refine locate_eq_ok_iff.2 ⟨spellable, origin, ?_, follows.of_kept kept⟩
  unfold origin? at begins ⊢
  split at begins
  · rename_i relative
    rw [if_pos relative]
    exact begins
  · rename_i absolute
    rw [if_neg absolute]
    split at begins
    · rename_i known
      rw [if_pos (root known)]
      exact begins
    · cases begins

/-! ## Asking about paths -/

section

variable
    {path target : DiskPath}
    {later : FileTree}
    {content : Bytes}

theorem find_eq_ok_iff :
    tree.find path = .ok (address, entry) ↔
      tree.locate path = .ok address ∧ tree.get? address = some entry := by
  unfold find
  cases located : tree.locate path with
  | error cause => simp
  | ok reached =>
      rw [ok_bind]
      cases standing : tree.get? reached with
      | none =>
          simp only [throw_eq_error, reduceCtorEq, Except.ok.injEq, false_iff]
          rintro ⟨rfl, found⟩
          rw [standing] at found
          cases found
      | some known =>
          simp only [pure_eq_ok, Except.ok.injEq, Prod.mk.injEq]
          constructor
          · rintro ⟨rfl, rfl⟩
            exact ⟨rfl, standing⟩
          · rintro ⟨rfl, found⟩
            rw [standing] at found
            cases found
            exact ⟨rfl, rfl⟩

theorem entryAt_eq_some_iff :
    tree.entryAt path = .ok (some entry) ↔
      ∃ address, tree.find path = .ok (address, entry) := by
  unfold entryAt
  cases tree.find path with
  | error cause => cases cause <;> simp
  | ok found =>
      obtain ⟨address, known⟩ := found
      simp

/-- Only a name that is too long keeps from seeing what stands at a path. -/
theorem entryAt_eq_error_iff
    {fault : DiskFault} :
    tree.entryAt path = .error fault ↔
      tree.find path = .error .nameTooLong ∧
        fault = { cause := .nameTooLong, path } := by
  unfold entryAt
  cases tree.find path with
  | error cause => cases cause <;> simp [eq_comm]
  | ok found => simp

theorem isTaken_eq_true_iff :
    tree.isTaken path = .ok true ↔
      ∃ address entry, tree.find path = .ok (address, entry) := by
  have answer :
      tree.isTaken path = .ok true ↔
        ∃ entry, tree.entryAt path = .ok (some entry) := by
    unfold isTaken
    cases tree.entryAt path with
    | error fault => simp
    | ok known => cases known <;> simp
  rw [answer]
  simp only [entryAt_eq_some_iff]
  exact exists_comm

theorem isFile_eq_true_iff :
    tree.isFile path = .ok true ↔
      ∃ address content, tree.find path = .ok (address, .file content) := by
  have answer :
      tree.isFile path = .ok true ↔
        ∃ content, tree.entryAt path = .ok (some (.file content)) := by
    unfold isFile
    cases tree.entryAt path with
    | error fault => simp
    | ok known =>
        cases known with
        | none => simp
        | some entry => cases entry <;> simp [Entry.isFile]
  rw [answer]
  simp only [entryAt_eq_some_iff]
  exact exists_comm

theorem isFile_eq_error_iff
    {fault : DiskFault} :
    tree.isFile path = .error fault ↔
      tree.find path = .error .nameTooLong ∧
        fault = { cause := .nameTooLong, path } := by
  rw [← entryAt_eq_error_iff]
  unfold isFile
  cases tree.entryAt path with
  | error other => simp
  | ok known => simp

theorem isDirectory_eq_true_iff :
    tree.isDirectory path = .ok true ↔
      ∃ address, tree.find path = .ok (address, .directory) := by
  have answer :
      tree.isDirectory path = .ok true ↔
        tree.entryAt path = .ok (some .directory) := by
    unfold isDirectory
    cases tree.entryAt path with
    | error fault => simp
    | ok known => simp
  rw [answer, entryAt_eq_some_iff]

/-- Only below a directory there is something. -/
theorem isDirectory_of_mem_descend
    {known : DiskPath × Entry}
    (member : known ∈ tree.descend path) :
    tree.isDirectory path = .ok true := by
  rw [isDirectory_eq_true_iff]
  unfold descend at member
  split at member
  · rename_i address found
    exact ⟨address, found⟩
  · cases member

/-! ## Listing directories -/

/-- No name stands twice in a directory. -/
theorem IsSound.nodup_children
    (sound : tree.IsSound)
    (address : Address) :
    (tree.children address).Nodup := by
  have spelled :
      tree.children address =
        (tree.entries.map Prod.fst).filterMap fun known =>
          if known.dropLast = address then known.getLast? else none := by
    rw [List.filterMap_map]
    rfl
  rw [spelled]
  apply sound.apart.filterMap
  intro known other name named alsoNamed
  simp only [Option.mem_def, Option.ite_none_right_eq_some] at named alsoNamed
  rw [← List.dropLast_append_getLast? name named.2,
    ← List.dropLast_append_getLast? name alsoNamed.2, named.1, alsoNamed.1]

theorem IsSound.nodup_list
    (sound : tree.IsSound)
    (path : DiskPath) :
    (tree.list path).Nodup := by
  unfold list
  split
  · apply (sound.nodup_children _).map
    intro name other same
    simpa using same
  · exact List.nodup_nil

/-- What is listed in a directory is one step further. -/
theorem exists_down_of_mem_list
    (member : target ∈ tree.list path) :
    ∃ name, target = path.down [name] := by
  unfold list at member
  split at member
  · rcases List.mem_map.1 member with ⟨name, _, rfl⟩
    exact ⟨name, rfl⟩
  · cases member

/-! ## Reading files -/

theorem read_eq_ok_iff :
    tree.read path = .ok content ↔
      ∃ address, tree.find path = .ok (address, .file content) := by
  unfold read blame
  cases tree.find path with
  | error cause => simp [Except.mapError]
  | ok found =>
      obtain ⟨address, known⟩ := found
      cases known with
      | file bytes => simp [Except.mapError]
      | directory => simp [Except.mapError]

theorem walk_ne_invalidName
    (names : List String) :
    tree.walk current names ≠ .error .invalidName := by
  induction names generalizing current with
  | nil => simp [walk]
  | cons name names inductionStep =>
      rw [walk_cons]
      split
      · split
        · simp
        · split
          · exact inductionStep
          · exact inductionStep
      · split
        · simp
        · split
          · simp
          · split
            · simp
            · simp
            · exact inductionStep

theorem isInvalid_of_locate
    (refused : tree.locate path = .error .invalidName) :
    path.parts.any isInvalid = true := by
  unfold locate at refused
  split at refused
  · assumption
  · split at refused
    · cases refused
    · split at refused
      · exact absurd refused (walk_ne_invalidName _)
      · split at refused
        · exact absurd refused (walk_ne_invalidName _)
        · cases refused

/-- Only names that no entry can have are refused for what they are. -/
theorem isInvalid_of_read
    {fault : DiskFault}
    (failed : tree.read path = .error fault)
    (invalid : fault.cause = .invalidName) :
    path.parts.any isInvalid = true := by
  rcases mapError_eq_error_iff.1 failed with ⟨cause, refused, rfl⟩
  cases invalid
  rcases bind_eq_error_iff.1 refused with unknown | ⟨known, _, there⟩
  · rcases bind_eq_error_iff.1 unknown with here | ⟨address, _, there⟩
    · exact isInvalid_of_locate here
    · split at there
      · cases there
      · cases there
  · split at there
    · cases there
    · cases there

/-- Where there is a directory, all names are such as entries can have. -/
theorem valid_of_isDirectory
    (isDirectory : tree.isDirectory path = .ok true) :
    path.parts.any isInvalid = false := by
  rcases isDirectory_eq_true_iff.1 isDirectory with ⟨address, found⟩
  exact (locate_eq_ok_iff.1 (find_eq_ok_iff.1 found).1).1.valid

/-! ## Changing what paths lead to -/

theorem write_eq_ok_iff :
    tree.write path content = .ok later ↔
      ∃ address,
        tree.locate path = .ok address ∧
          tree.get? address ≠ some .directory ∧
          tree.insert address (.file content) = later := by
  unfold write blame
  cases tree.locate path with
  | error cause => simp [Except.mapError]
  | ok address =>
      rw [ok_bind]
      cases standing : tree.get? address with
      | none => simp [Except.mapError, standing]
      | some known =>
          cases known with
          | file bytes => simp [Except.mapError, standing]
          | directory => simp [Except.mapError, standing]

theorem makeDirectory_eq_ok_iff :
    tree.makeDirectory path = .ok later ↔
      ∃ address,
        tree.locate path = .ok address ∧
          tree.get? address = none ∧
          tree.insert address .directory = later := by
  unfold makeDirectory blame
  cases tree.locate path with
  | error cause => simp [Except.mapError]
  | ok address =>
      rw [ok_bind]
      cases standing : tree.get? address with
      | none => simp [Except.mapError, standing]
      | some known => simp [Except.mapError, standing]

/-- A directory is made, or is there already. -/
theorem ensureDirectory_cases
    (done : tree.ensureDirectory path = .ok later) :
    tree.makeDirectory path = .ok later ∨
      tree = later ∧ tree.isDirectory path = .ok true := by
  unfold ensureDirectory at done
  split at done
  · rename_i made
    exact Or.inl (made.trans done)
  · split at done
    · cases done
    · split at done
      · rename_i there
        cases done
        exact Or.inr ⟨rfl, there⟩
      · cases done
      · cases done

/-- A directory that is there is left as it is. -/
theorem ensureDirectory_of_find
    (found : tree.find path = .ok (address, .directory)) :
    tree.ensureDirectory path = .ok tree := by
  obtain ⟨located, standing⟩ := find_eq_ok_iff.1 found
  have taken :
      tree.makeDirectory path = .error { cause := .taken, path } := by
    simp [makeDirectory, blame, located, standing, Except.mapError]
  have there : tree.isDirectory path = .ok true :=
    isDirectory_eq_true_iff.2 ⟨address, found⟩
  simp [ensureDirectory, taken, there]

/-- A directory is made at once, or else after the one above it. -/
theorem ensureFrom_succ_cases
    {count : Nat}
    (done : tree.ensureFrom path (count + 1) = .ok later) :
    tree.ensureDirectory path = .ok later ∨
      (∃ fault, tree.ensureDirectory path = .error fault) ∧
        ∃ above,
          tree.ensureFrom path.parent count = .ok above ∧
            above.ensureDirectory path = .ok later := by
  rw [ensureFrom] at done
  split at done
  · rename_i made
    exact Or.inl (made.trans done)
  · rename_i fault failed
    split at done
    · rw [mapError_eq_ok_iff, bind_eq_ok_iff] at done
      exact Or.inr ⟨⟨fault, failed⟩, done⟩
    · cases done

theorem removeTree_eq_ok_iff :
    tree.removeTree path = .ok later ↔
      ∃ address,
        tree.find path = .ok (address, .directory) ∧
          tree.erase address = later := by
  unfold removeTree blame
  cases tree.find path with
  | error cause => simp [Except.mapError]
  | ok found =>
      obtain ⟨address, known⟩ := found
      cases known with
      | file bytes => simp [Except.mapError]
      | directory => simp [Except.mapError]

/-- A file goes where there is no directory. -/
theorem rename_eq_ok_iff
    (isFile : tree.find path = .ok (address, .file content)) :
    tree.rename path target = .ok later ↔
      ∃ finish,
        tree.locate target = .ok finish ∧
          tree.get? finish ≠ some .directory ∧
          tree.moveEntries address finish = later := by
  unfold rename
  rw [isFile]
  cases tree.locate target with
  | error cause => simp [Except.mapError]
  | ok finish =>
      cases standing : tree.get? finish with
      | none => simp [Except.mapError, standing]
      | some known =>
          cases known with
          | file bytes => simp [Except.mapError, standing]
          | directory => simp [Except.mapError, standing]

end

end FileTree

end CrateShelf
