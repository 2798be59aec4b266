import CrateShelf.Proofs.Disk.Settled

/-!
# Work that spares part of a disk

Work spares an address if a file stands there afterwards exactly when the
same file stood there before, and a directory that stood there still does.
Directories may be made everywhere: each address that is written to, moved
from or removed has to be outside of what is spared.

Main statements: for each way to change a disk, what has to lie outside.
-/

namespace CrateShelf.FileTree

/-- Whether files differ from those at the start at most where nothing is
spared. -/
structure Spares
    (spared : Address → Prop)
    (start files : FileTree) : Prop where
  grounded : files.IsGrounded
  file_iff : ∀ address content, spared address →
    (files.get? address = some (.file content) ↔
      start.get? address = some (.file content))
  directory : ∀ address, spared address →
    start.get? address = some .directory →
      files.get? address = some .directory

variable
    {spared : Address → Prop}
    {start files later : FileTree}
    {path target : DiskPath}
    {address : Address}
    {content : Bytes}

theorem Spares.refl
    (grounded : start.IsGrounded) :
    Spares spared start start where
  grounded := grounded
  file_iff := fun _ _ _ => Iff.rfl
  directory := fun _ _ standing => standing

theorem Spares.trans
    (first : Spares spared start files)
    (second : Spares spared files later) :
    Spares spared start later where
  grounded := second.grounded
  file_iff := fun address content isSpared =>
    (second.file_iff address content isSpared).trans
      (first.file_iff address content isSpared)
  directory := fun address isSpared standing =>
    second.directory address isSpared
      (first.directory address isSpared standing)

theorem Spares.mono
    {fewer : Address → Prop}
    (spares : Spares spared start files)
    (among : ∀ address, fewer address → spared address) :
    Spares fewer start files where
  grounded := spares.grounded
  file_iff := fun address content isFewer =>
    spares.file_iff address content (among address isFewer)
  directory := fun address isFewer =>
    spares.directory address (among address isFewer)

/-- A spared file is read as before. -/
theorem Spares.read_eq_ok_iff
    (spares : Spares spared start files)
    (grounded : start.IsGrounded)
    (plain : ".." ∉ path.parts)
    (isSpared : spared path.settled) :
    files.read path = .ok content ↔ start.read path = .ok content := by
  rw [read_eq_ok_iff_of_plain spares.grounded plain,
    read_eq_ok_iff_of_plain grounded plain,
    spares.file_iff path.settled content isSpared]

/-! ## Making directories -/

/-- Where there is nothing, there is a directory above. -/
theorem IsHeld.of_free
    (held : files.IsHeld address)
    (free : files.get? address ≠ some .directory) :
    ∃ holder name,
      holder ++ [name] = address ∧ files.get? holder = some .directory := by
  rcases held with standing | above
  · exact absurd standing free
  · exact above

theorem Spares.makeDirectory
    (spares : Spares spared start files)
    (done : files.makeDirectory path = .ok later) :
    Spares spared start later := by
  rcases makeDirectory_eq_ok_iff.1 done with ⟨address, located, free, rfl⟩
  have notDirectory : files.get? address ≠ some .directory := by
    rw [free]
    simp
  rcases (settled_of_locate spares.grounded located).2.of_free notDirectory
    with ⟨holder, name, rfl, inDirectory⟩
  have below : holder ++ [name] ≠ [] := by simp
  constructor
  · constructor
    · exact spares.grounded.sound.insert inDirectory fun _ => rfl
    · intro content
      rw [get?_insert below]
      split
      · simp
      · exact spares.grounded.root content
  · intro other content isSpared
    rw [get?_insert below, ← spares.file_iff other content isSpared]
    split
    · rename_i same
      rw [same, free]
      simp
    · exact Iff.rfl
  · intro other isSpared standing
    rw [get?_insert below]
    split
    · rfl
    · exact spares.directory other isSpared standing

theorem Spares.ensureDirectory
    (spares : Spares spared start files)
    (done : files.ensureDirectory path = .ok later) :
    Spares spared start later := by
  rcases ensureDirectory_cases done with made | ⟨rfl, _⟩
  · exact spares.makeDirectory made
  · exact spares

theorem Spares.ensureFrom
    (spares : Spares spared start files)
    {count : Nat}
    (done : files.ensureFrom path count = .ok later) :
    Spares spared start later := by
  induction count generalizing path later with
  | zero => exact spares.ensureDirectory done
  | succ count inductionStep =>
      rcases ensureFrom_succ_cases done with
        made | ⟨_, above, madeAbove, last⟩
      · exact spares.ensureDirectory made
      · exact (inductionStep madeAbove).ensureDirectory last

theorem Spares.ensureDirectories
    (spares : Spares spared start files)
    (done : files.ensureDirectories path = .ok later) :
    Spares spared start later :=
  spares.ensureFrom done

/-! ## Writing -/

/-- Where a file may be written, it is put into a directory. -/
theorem Spares.write
    (spares : Spares spared start files)
    (outside : ¬ spared path.settled)
    (notRoot : path.settled ≠ [rootName])
    (done : files.write path content = .ok later) :
    Spares spared start later := by
  rcases write_eq_ok_iff.1 done with ⟨address, located, free, rfl⟩
  rcases settled_of_locate spares.grounded located with ⟨rfl, held⟩
  rcases held.of_free free with ⟨holder, name, spelled, inDirectory⟩
  rw [← spelled] at outside notRoot free ⊢
  have below : holder ++ [name] ≠ [] := by simp
  constructor
  · constructor
    · exact spares.grounded.sound.insert inDirectory fun standing =>
        absurd standing free
    · intro known
      rw [get?_insert below, if_neg notRoot.symm]
      exact spares.grounded.root known
  · intro other known isSpared
    rw [get?_insert below, if_neg, spares.file_iff other known isSpared]
    rintro rfl
    exact outside isSpared
  · intro other isSpared standing
    rw [get?_insert below, if_neg]
    · exact spares.directory other isSpared standing
    · rintro rfl
      exact outside isSpared

theorem Spares.place
    (spares : Spares spared start files)
    (outside : ¬ spared path.settled)
    (notRoot : path.settled ≠ [rootName])
    (done : files.place path content = .ok later) :
    Spares spared start later := by
  rcases bind_eq_ok_iff.1 done with ⟨above, made, written⟩
  exact (spares.ensureDirectories made).write outside notRoot written

/-- A file that was written is found. -/
theorem find_of_write
    (grounded : files.IsGrounded)
    (done : files.write path content = .ok later) :
    later.find path = .ok (path.settled, .file content) := by
  rcases write_eq_ok_iff.1 done with ⟨address, located, free, rfl⟩
  rcases settled_of_locate grounded located with ⟨rfl, _⟩
  have below : path.settled ≠ [] := by
    intro root
    rw [root, FileTree.get?_root] at free
    exact free rfl
  rw [find_eq_ok_iff, get?_insert below, if_pos rfl]
  have kept : ∀ place, files.get? place = some .directory →
      (files.insert path.settled (.file content)).get? place =
        some .directory := by
    intro place standing
    rw [get?_insert below, if_neg]
    · exact standing
    · rintro rfl
      exact free standing
  refine ⟨locate_of_kept kept ?_ located, rfl⟩
  intro known
  rw [kept [rootName] (grounded.get?_root known)]
  rfl

/-! ## Removing and moving -/

theorem isGrounded_empty : ({} : FileTree).IsGrounded := by
  constructor
  · constructor
    · exact List.nodup_nil
    · exact List.not_mem_nil
    · intro holder name entry standing
      simp [get?] at standing
  · intro content
    simp [get?, rootName]

/-- What is at or below the directory is no longer there. -/
theorem Spares.removeTree
    (spares : Spares spared start files)
    (outside : ∀ address, spared address → ¬ path.settled <+: address)
    (done : files.removeTree path = .ok later) :
    Spares spared start later := by
  rcases removeTree_eq_ok_iff.1 done with ⟨address, found, rfl⟩
  have settled := settled_of_find spares.grounded found
  subst settled
  by_cases all : path.settled = []
  · -- Without the working directory nothing is left, and nothing is spared.
    have empty : files.erase path.settled = {} := by
      simp [erase, all]
    have nothing : ∀ address, ¬ spared address := by
      intro address isSpared
      apply outside address isSpared
      rw [all]
      exact List.nil_prefix
    rw [empty]
    constructor
    · exact isGrounded_empty
    · intro other content isSpared
      exact absurd isSpared (nothing other)
    · intro other isSpared
      exact absurd isSpared (nothing other)
  · constructor
    · constructor
      · exact spares.grounded.sound.erase all
      · intro content
        rw [get?_erase all]
        split
        · simp
        · exact spares.grounded.root content
    · intro other content isSpared
      rw [get?_erase all, if_neg (outside other isSpared),
        spares.file_iff other content isSpared]
    · intro other isSpared standing
      rw [get?_erase all, if_neg (outside other isSpared)]
      exact spares.directory other isSpared standing

/-- A file may be moved from and to where nothing is spared. -/
theorem Spares.rename
    (spares : Spares spared start files)
    (isFile : files.find path = .ok (address, .file content))
    (outside : ¬ spared address)
    (alsoOutside : ¬ spared target.settled)
    (notRoot : target.settled ≠ [rootName])
    (done : files.rename path target = .ok later) :
    Spares spared start later := by
  rcases (rename_eq_ok_iff isFile).1 done with ⟨finish, located, free, rfl⟩
  have standing := (find_eq_ok_iff.1 isFile).2
  rcases settled_of_locate spares.grounded located with ⟨rfl, held⟩
  rcases held.of_free free with ⟨holder, name, spelled, inDirectory⟩
  rw [← spelled] at alsoOutside notRoot free ⊢
  have below : holder ++ [name] ≠ [] := by simp
  have moved :=
    get?_moveEntries_of_file spares.grounded.sound standing below free
  constructor
  · constructor
    · exact spares.grounded.sound.moveEntries standing inDirectory
    · intro known
      rw [moved, if_neg notRoot.symm]
      split
      · simp
      · exact spares.grounded.root known
  · intro other known isSpared
    rw [moved, if_neg, if_neg, spares.file_iff other known isSpared]
    · rintro rfl
      exact outside isSpared
    · rintro rfl
      exact alsoOutside isSpared
  · intro other isSpared directory
    rw [moved, if_neg, if_neg]
    · exact spares.directory other isSpared directory
    · rintro rfl
      exact outside isSpared
    · rintro rfl
      exact alsoOutside isSpared

end CrateShelf.FileTree
