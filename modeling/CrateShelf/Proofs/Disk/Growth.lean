import CrateShelf.Proofs.Disk.Reach

/-!
# Making directories below a known one

A path that leads on from a known directory is refused for its names, for
what is missing on the way, or it leads to the address that they spell.
Making directories below the known one only adds directories, and only where
no name is refused.

Main statements: what is found under a path that leads on from a directory,
and how a tree grows when directories are made.
-/

namespace CrateShelf.FileTree

/-- Whether no name that leads on from a path is refused for what it is, or
leads back. -/
structure IsNameable (anchor : DiskPath) (names : List String) : Prop where
  plain : ".." ∉ names
  valid : (anchor.down names).parts.any isInvalid = false
  short : (anchor.down names).toText.utf8ByteSize ≤ longestPath
  each : ∀ name ∈ names, name.utf8ByteSize ≤ longestName

variable
    {tree later : FileTree}
    {anchor : DiskPath}
    {base address : Address}
    {entry : Entry}
    {names : List String}

/-! ## Paths that lead on -/

theorem locate_down
    (sound : tree.IsSound)
    (anchored : tree.find anchor = .ok (base, .directory))
    (plain : ".." ∉ names) :
    tree.locate (anchor.down names) = .ok address ↔
      IsNameable anchor names ∧
        base ++ names = address ∧
        tree.get? (base ++ names.dropLast) = some .directory := by
  obtain ⟨reached, isDirectory⟩ := find_eq_ok_iff.1 anchored
  obtain ⟨_, origin, begins, follows⟩ := locate_eq_ok_iff.1 reached
  have split :
      tree.Follows origin (anchor.down names).parts address ↔
        tree.Follows base names address := by
    rw [DiskPath.down, follows_iff_walk_eq, follows_iff_walk_eq,
      follows.walk_append isDirectory]
  rw [locate_eq_ok_iff]
  constructor
  · rintro ⟨spellable, start, alsoBegins, further⟩
    cases begins.symm.trans alsoBegins
    obtain ⟨spelled, each, above⟩ :=
      (split.1 further).spells isDirectory plain
    exact ⟨⟨plain, spellable.valid, spellable.short, each⟩, spelled, above⟩
  · rintro ⟨nameable, rfl, above⟩
    refine ⟨⟨nameable.valid, nameable.short⟩, origin, begins, split.2 ?_⟩
    exact follows_of_spelled sound isDirectory plain nameable.each above

/-- What is found under a path that leads on from a directory stands at the
address that the names spell. -/
theorem find_down
    (sound : tree.IsSound)
    (anchored : tree.find anchor = .ok (base, .directory))
    (plain : ".." ∉ names) :
    tree.find (anchor.down names) = .ok (address, entry) ↔
      IsNameable anchor names ∧
        base ++ names = address ∧
        tree.get? address = some entry := by
  rw [find_eq_ok_iff, locate_down sound anchored plain]
  constructor
  · rintro ⟨⟨nameable, spelled, _⟩, standing⟩
    exact ⟨nameable, spelled, standing⟩
  · rintro ⟨nameable, rfl, standing⟩
    refine ⟨⟨nameable, rfl, ?_⟩, standing⟩
    cases names using List.reverseRecOn with
    | nil =>
        simpa using (find_eq_ok_iff.1 anchored).2
    | append_singleton names name _ =>
        rw [List.dropLast_concat]
        rw [← List.append_assoc] at standing
        exact sound.held _ _ _ standing

/-! ## Growing trees -/

/-- Whether everything in a tree stands where it was in a later one. -/
def Keeps (tree later : FileTree) : Prop :=
  ∀ address entry,
    tree.get? address = some entry → later.get? address = some entry

/-- A directory that is found is found as long as everything is kept. -/
theorem Keeps.find
    (keeps : tree.Keeps later)
    (found : tree.find anchor = .ok (base, entry)) :
    later.find anchor = .ok (base, entry) := by
  rw [find_eq_ok_iff] at found ⊢
  rcases found with ⟨reached, standing⟩
  constructor
  · apply locate_of_kept (fun place => keeps place .directory) _ reached
    intro known
    rcases Option.isSome_iff_exists.1 known with ⟨entry, root⟩
    rw [keeps _ _ root]
    rfl
  · exact keeps _ _ standing

/-- How a tree grows when directories are made below a known one. -/
structure Grows
    (anchor : DiskPath)
    (base : Address)
    (tree later : FileTree) : Prop where
  sound : later.IsSound
  keeps : tree.Keeps later
  new : ∀ address entry,
    later.get? address = some entry →
      tree.get? address = some entry ∨
        entry = .directory ∧
          ∃ names, IsNameable anchor names ∧ base ++ names = address

theorem Grows.refl
    (sound : tree.IsSound) :
    Grows anchor base tree tree where
  sound := sound
  keeps := fun _ _ standing => standing
  new := fun _ _ standing => Or.inl standing

theorem Grows.trans
    {middle : FileTree}
    (first : Grows anchor base tree middle)
    (second : Grows anchor base middle later) :
    Grows anchor base tree later where
  sound := second.sound
  keeps := fun address entry standing =>
    second.keeps address entry (first.keeps address entry standing)
  new := by
    intro address entry standing
    rcases second.new address entry standing with earlier | isNew
    · exact first.new address entry earlier
    · exact Or.inr isNew

/-- Making a directory below a known one. -/
theorem grows_makeDirectory
    (sound : tree.IsSound)
    (anchored : tree.find anchor = .ok (base, .directory))
    (plain : ".." ∉ names)
    (done : tree.makeDirectory (anchor.down names) = .ok later) :
    Grows anchor base tree later ∧
      later.get? (base ++ names) = some .directory ∧
      IsNameable anchor names := by
  obtain ⟨address, located, free, rfl⟩ := makeDirectory_eq_ok_iff.1 done
  obtain ⟨nameable, rfl, above⟩ :=
    (locate_down sound anchored plain).1 located
  have below : base ++ names ≠ [] := by
    intro root
    rw [root, get?_root] at free
    cases free
  have grown : (tree.insert (base ++ names) .directory).IsSound := by
    cases names using List.reverseRecOn with
    | nil =>
        rw [List.append_nil, (find_eq_ok_iff.1 anchored).2] at free
        cases free
    | append_singleton names name _ =>
        rw [List.dropLast_concat] at above
        rw [← List.append_assoc]
        exact sound.insert above fun _ => rfl
  refine ⟨⟨grown, ?_, ?_⟩, ?_, nameable⟩
  · intro place known standing
    rw [get?_insert below, if_neg, standing]
    rintro rfl
    rw [free] at standing
    cases standing
  · intro place known standing
    rw [get?_insert below] at standing
    split at standing
    · rename_i same
      cases standing
      exact Or.inr ⟨rfl, names, nameable, same.symm⟩
    · exact Or.inl standing
  · rw [get?_insert below, if_pos rfl]

theorem grows_ensureDirectory
    (sound : tree.IsSound)
    (anchored : tree.find anchor = .ok (base, .directory))
    (plain : ".." ∉ names)
    (done : tree.ensureDirectory (anchor.down names) = .ok later) :
    Grows anchor base tree later ∧
      later.get? (base ++ names) = some .directory ∧
      IsNameable anchor names := by
  rcases ensureDirectory_cases done with made | ⟨rfl, there⟩
  · exact grows_makeDirectory sound anchored plain made
  · obtain ⟨address, found⟩ := isDirectory_eq_true_iff.1 there
    obtain ⟨nameable, rfl, standing⟩ :=
      (find_down sound anchored plain).1 found
    exact ⟨Grows.refl sound, standing, nameable⟩

/-- Making a directory and those above it; the known directory ends the way
up. -/
theorem grows_ensureFrom
    (sound : tree.IsSound)
    (anchored : tree.find anchor = .ok (base, .directory))
    (plain : ".." ∉ names)
    {count : Nat}
    (done : tree.ensureFrom (anchor.down names) count = .ok later) :
    Grows anchor base tree later ∧
      later.get? (base ++ names) = some .directory ∧
      IsNameable anchor names := by
  induction count generalizing names later with
  | zero => exact grows_ensureDirectory sound anchored plain done
  | succ count inductionStep =>
      rcases ensureFrom_succ_cases done with
        made | ⟨⟨fault, failed⟩, above, madeAbove, last⟩
      · exact grows_ensureDirectory sound anchored plain made
      · cases names using List.reverseRecOn with
        | nil =>
            rw [DiskPath.down_nil, ensureDirectory_of_find anchored] at failed
            cases failed
        | append_singleton names name _ =>
            rw [← DiskPath.down_down, DiskPath.parent_down] at madeAbove
            have plainAbove : ".." ∉ names := fun member =>
              plain (List.mem_append_left _ member)
            obtain ⟨first, _, _⟩ := inductionStep plainAbove madeAbove
            obtain ⟨second, standing, nameable⟩ :=
              grows_ensureDirectory first.sound
                (first.keeps.find anchored) plain last
            exact ⟨first.trans second, standing, nameable⟩

/-- Making a directory and all above it only adds directories. -/
theorem grows_ensureDirectories
    (sound : tree.IsSound)
    (anchored : tree.find anchor = .ok (base, .directory))
    (plain : ".." ∉ names)
    (done : tree.ensureDirectories (anchor.down names) = .ok later) :
    Grows anchor base tree later ∧
      later.get? (base ++ names) = some .directory ∧
      IsNameable anchor names :=
  grows_ensureFrom sound anchored plain done

end CrateShelf.FileTree
