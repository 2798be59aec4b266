import CrateShelf.Proofs.Disk.Growth

/-!
# Work at one place of a disk

A site is a directory that may not be there yet, below one that is known.
Work at a site keeps what was on the disk before.  It is described by the
content of the files there: what is written, moved or removed, and that
everything else stays.

Main statements: the content of the files at a site after a file is placed,
written or moved and after a directory is made or removed, and what the disk
says of them.
-/

namespace CrateShelf

/-- A directory that names lead to from a known one. -/
structure Site where
  anchor : DiskPath
  base : Address
  names : List String

namespace Site

/-- The address of the directory. -/
def home (site : Site) : Address := site.base ++ site.names

/-- The path that leads on from the directory. -/
def path (site : Site) (steps : List String) : DiskPath :=
  site.anchor.down (site.names ++ steps)

/-- Whether nothing is at a site, on a sound disk. -/
structure IsFree (site : Site) (start : FileTree) : Prop where
  sound : start.IsSound
  anchored : start.find site.anchor = .ok (site.base, .directory)
  plain : ".." ∉ site.names
  free : start.get? site.home = none

/-- What stays so at a site: what was on the disk before is kept, and nothing
at the site has a name that is refused. -/
structure Frame (site : Site) (start files : FileTree) : Prop where
  sound : files.IsSound
  keeps : start.Keeps files
  nameable : ∀ steps entry,
    files.get? (site.home ++ steps) = some entry →
      FileTree.IsNameable site.anchor (site.names ++ steps)

/-- The content of a file at a site. -/
def content? (site : Site) (files : FileTree) (steps : List String) :
    Option Bytes :=
  match files.get? (site.home ++ steps) with
  | some (.file content) => some content
  | _ => none

variable
    {site : Site}
    {start files later : FileTree}
    {steps target : List String}
    {content : Bytes}

theorem content?_eq_some_iff :
    site.content? files steps = some content ↔
      files.get? (site.home ++ steps) = some (.file content) := by
  unfold content?
  split
  · rename_i known standing
    rw [standing]
    simp
  · rename_i different
    simp only [reduceCtorEq, false_iff]
    exact different content

/-- The content of files is the same where the same files stand. -/
theorem content?_congr
    (same : ∀ content,
      later.get? (site.home ++ target) = some (.file content) ↔
        files.get? (site.home ++ steps) = some (.file content)) :
    site.content? later target = site.content? files steps := by
  apply Option.ext
  intro content
  rw [content?_eq_some_iff, content?_eq_some_iff, same]

/-! ## A free site -/

theorem IsFree.get?_eq_none
    (free : site.IsFree start)
    (steps : List String) :
    start.get? (site.home ++ steps) = none := by
  cases steps with
  | nil => simpa using free.free
  | cons first steps =>
      apply free.sound.get?_append_eq_none
      · rw [free.free]
        simp
      · simp

theorem IsFree.frame
    (free : site.IsFree start) :
    site.Frame start start where
  sound := free.sound
  keeps := fun _ _ standing => standing
  nameable := by
    intro steps entry standing
    rw [free.get?_eq_none] at standing
    cases standing

theorem IsFree.content?_eq_none
    (free : site.IsFree start)
    (steps : List String) :
    site.content? start steps = none := by
  unfold content?
  rw [free.get?_eq_none]

theorem Frame.anchored
    (frame : site.Frame start files)
    (free : site.IsFree start) :
    files.find site.anchor = .ok (site.base, .directory) :=
  frame.keeps.find free.anchored

theorem IsFree.plain_append
    (free : site.IsFree start)
    (plain : ".." ∉ steps) :
    ".." ∉ site.names ++ steps := by
  rw [List.mem_append, not_or]
  exact ⟨free.plain, plain⟩

/-- What stands at a site is reached without a way back. -/
theorem Frame.plain_of_standing
    (frame : site.Frame start files)
    {entry : Entry}
    (standing : files.get? (site.home ++ steps) = some entry) :
    ".." ∉ steps := by
  intro member
  exact (frame.nameable steps entry standing).plain
    (List.mem_append_right _ member)

/-! ## Asking -/

/-- What is found at a site is what stands there. -/
theorem Frame.find_eq_ok_iff
    (frame : site.Frame start files)
    (free : site.IsFree start)
    (plain : ".." ∉ steps)
    {address : Address}
    {entry : Entry} :
    files.find (site.path steps) = .ok (address, entry) ↔
      site.home ++ steps = address ∧
        files.get? (site.home ++ steps) = some entry := by
  unfold path
  rw [FileTree.find_down frame.sound (frame.anchored free)
    (free.plain_append plain), ← List.append_assoc]
  constructor
  · rintro ⟨_, rfl, standing⟩
    exact ⟨rfl, standing⟩
  · rintro ⟨rfl, standing⟩
    exact ⟨frame.nameable _ _ standing, rfl, standing⟩

/-- Where a file may be put, its directory stands. -/
theorem Frame.of_locate
    (frame : site.Frame start files)
    (free : site.IsFree start)
    (plain : ".." ∉ target)
    (below : target ≠ [])
    {address : Address}
    (located : files.locate (site.path target) = .ok address) :
    site.home ++ target = address ∧
      FileTree.IsNameable site.anchor (site.names ++ target) ∧
      files.get? (site.home ++ target.dropLast) = some .directory := by
  obtain ⟨nameable, spelled, holder⟩ :=
    (FileTree.locate_down frame.sound (frame.anchored free)
      (free.plain_append plain)).1 located
  rw [List.dropLast_append_of_ne_nil below] at holder
  refine ⟨?_, nameable, ?_⟩
  · rw [home, List.append_assoc]
    exact spelled
  · rw [home, List.append_assoc]
    exact holder

/-- What is read at a site is the content of the file. -/
theorem Frame.read_eq_ok_iff
    (frame : site.Frame start files)
    (free : site.IsFree start)
    (plain : ".." ∉ steps) :
    files.read (site.path steps) = .ok content ↔
      site.content? files steps = some content := by
  rw [FileTree.read_eq_ok_iff, content?_eq_some_iff]
  simp only [frame.find_eq_ok_iff free plain, exists_eq_left']

theorem Frame.isFile_eq_true_iff
    (frame : site.Frame start files)
    (free : site.IsFree start)
    (plain : ".." ∉ steps) :
    files.isFile (site.path steps) = .ok true ↔
      ∃ content, site.content? files steps = some content := by
  rw [FileTree.isFile_eq_true_iff]
  simp only [frame.find_eq_ok_iff free plain, content?_eq_some_iff]
  constructor
  · rintro ⟨address, content, rfl, standing⟩
    exact ⟨content, standing⟩
  · rintro ⟨content, standing⟩
    exact ⟨_, content, rfl, standing⟩

theorem Frame.isDirectory_eq_true_iff
    (frame : site.Frame start files)
    (free : site.IsFree start)
    (plain : ".." ∉ steps) :
    files.isDirectory (site.path steps) = .ok true ↔
      files.get? (site.home ++ steps) = some .directory := by
  rw [FileTree.isDirectory_eq_true_iff]
  simp only [frame.find_eq_ok_iff free plain, exists_eq_left']

/-- Below what is not taken there are no files. -/
theorem Frame.content?_of_not_isTaken
    (frame : site.Frame start files)
    (free : site.IsFree start)
    (plain : ".." ∉ target)
    (untaken : files.isTaken (site.path target) ≠ .ok true)
    (inside : target <+: steps) :
    site.content? files steps = none := by
  rw [Option.eq_none_iff_forall_ne_some]
  intro content present
  rw [content?_eq_some_iff] at present
  obtain ⟨names, rfl⟩ := inside
  rw [← List.append_assoc] at present
  have taken : ∃ entry, files.get? (site.home ++ target) = some entry := by
    cases names with
    | nil => exact ⟨_, by simpa using present⟩
    | cons first names =>
        exact ⟨_, frame.sound.directory_of_append present (by simp)⟩
  obtain ⟨entry, standing⟩ := taken
  apply untaken
  rw [FileTree.isTaken_eq_true_iff]
  exact ⟨_, entry, (frame.find_eq_ok_iff free plain).2 ⟨rfl, standing⟩⟩

/-! ## Listing -/

/-- Below the directory there is what stands there. -/
theorem Frame.mem_descend
    (frame : site.Frame start files)
    (free : site.IsFree start)
    (isDirectory : files.get? site.home = some .directory)
    {path : DiskPath}
    {entry : Entry} :
    (path, entry) ∈ files.descend (site.path []) ↔
      ∃ steps,
        steps ≠ [] ∧
          site.path steps = path ∧
          files.get? (site.home ++ steps) = some entry := by
  have found :
      files.find (site.path []) = .ok (site.home, .directory) := by
    rw [frame.find_eq_ok_iff free (by simp), List.append_nil]
    exact ⟨rfl, isDirectory⟩
  have shown :
      ∀ names,
        { site.path [] with
          parts := (site.path []).parts ++
            (site.home ++ names).drop site.home.length } =
            site.path names := by
    intro names
    simp [Site.path, DiskPath.down]
  unfold FileTree.descend FileTree.below
  rw [found]
  simp only [List.mem_map, List.mem_filter, Bool.and_eq_true,
    List.isPrefixOf_iff_prefix, bne_iff_ne, Prod.mk.injEq]
  constructor
  · rintro ⟨⟨known, standing⟩, ⟨member, ⟨names, rfl⟩, apart⟩, rfl, rfl⟩
    have some : names ≠ [] := by
      rintro rfl
      exact apart (List.append_nil site.home)
    refine ⟨names, some, (shown names).symm, ?_⟩
    exact (FileTree.get?_eq_some_iff_mem frame.sound (by simp [some])).2
      member
  · rintro ⟨names, some, rfl, standing⟩
    refine ⟨(site.home ++ names, entry), ⟨?_, ?_, ?_⟩, shown names, rfl⟩
    · exact (FileTree.get?_eq_some_iff_mem frame.sound (by simp [some])).1
        standing
    · exact List.prefix_append site.home names
    · simpa using some

theorem Frame.nodup_descend
    (frame : site.Frame start files)
    (free : site.IsFree start)
    (isDirectory : files.get? site.home = some .directory) :
    ((files.descend (site.path [])).map Prod.fst).Nodup := by
  have found :
      files.find (site.path []) = .ok (site.home, .directory) := by
    rw [frame.find_eq_ok_iff free (by simp), List.append_nil]
    exact ⟨rfl, isDirectory⟩
  have nodup : files.entries.Nodup :=
    List.Nodup.of_map Prod.fst frame.sound.apart
  unfold FileTree.descend FileTree.below
  rw [found]
  dsimp only
  rw [List.map_map]
  apply List.Nodup.map_on _ (nodup.filter _)
  intro known member other alsoMember same
  simp only [List.mem_filter, Bool.and_eq_true,
    List.isPrefixOf_iff_prefix] at member alsoMember
  obtain ⟨inTree, ⟨names, spelled⟩, _⟩ := member
  obtain ⟨alsoInTree, ⟨others, alsoSpelled⟩, _⟩ := alsoMember
  apply List.inj_on_of_nodup_map frame.sound.apart inTree alsoInTree
  rw [← spelled, ← alsoSpelled]
  simp only [Function.comp_apply, ← spelled, ← alsoSpelled,
    List.drop_left, DiskPath.mk.injEq, List.append_cancel_left_eq,
    true_and] at same
  rw [same]

/-! ## Making directories -/

/-- Directories that are made leave all files as they are. -/
theorem Frame.of_grows
    (frame : site.Frame start files)
    (grows : FileTree.Grows site.anchor site.base files later) :
    site.Frame start later ∧
      ∀ steps, site.content? later steps = site.content? files steps := by
  constructor
  · constructor
    · exact grows.sound
    · intro address entry standing
      exact grows.keeps _ _ (frame.keeps _ _ standing)
    · intro steps entry standing
      rcases grows.new _ _ standing with earlier | ⟨_, names, new, spelled⟩
      · exact frame.nameable steps entry earlier
      · rw [home, List.append_assoc] at spelled
        rwa [List.append_cancel_left spelled] at new
  · intro steps
    apply content?_congr
    intro content
    constructor
    · intro standing
      rcases grows.new _ _ standing with earlier | ⟨directory, _⟩
      · exact earlier
      · cases directory
    · exact grows.keeps _ _

theorem Frame.ensureDirectories
    (frame : site.Frame start files)
    (free : site.IsFree start)
    (plain : ".." ∉ target)
    (done : files.ensureDirectories (site.path target) = .ok later) :
    site.Frame start later ∧
      (∀ steps, site.content? later steps = site.content? files steps) ∧
      later.get? (site.home ++ target) = some .directory := by
  obtain ⟨grows, standing, _⟩ :=
    FileTree.grows_ensureDirectories frame.sound (frame.anchored free)
      (free.plain_append plain) done
  obtain ⟨framed, same⟩ := frame.of_grows grows
  refine ⟨framed, same, ?_⟩
  rw [home, List.append_assoc]
  exact standing

/-! ## Writing -/

/-- Putting a file where no directory is. -/
theorem Frame.insert
    (frame : site.Frame start files)
    (free : site.IsFree start)
    (below : target ≠ [])
    (nameable :
      FileTree.IsNameable site.anchor (site.names ++ target))
    (holder :
      files.get? (site.home ++ target.dropLast) = some .directory)
    (notDirectory :
      files.get? (site.home ++ target) ≠ some .directory) :
    site.Frame start
        (files.insert (site.home ++ target) (.file content)) ∧
      ∀ steps,
        site.content? (files.insert (site.home ++ target) (.file content))
            steps =
          if steps = target then some content
          else site.content? files steps := by
  have notRoot : site.home ++ target ≠ [] := by
    simp [below]
  refine ⟨⟨?_, ?_, ?_⟩, ?_⟩
  · cases target using List.reverseRecOn with
    | nil => exact absurd rfl below
    | append_singleton front last _ =>
        rw [List.dropLast_concat] at holder
        rw [← List.append_assoc] at notDirectory ⊢
        exact frame.sound.insert holder fun directory =>
          absurd directory notDirectory
  · intro address entry standing
    have apart : address ≠ site.home ++ target := by
      rintro rfl
      rw [free.get?_eq_none] at standing
      cases standing
    rw [FileTree.get?_insert_of_ne apart]
    exact frame.keeps _ _ standing
  · intro steps entry standing
    rw [FileTree.get?_insert notRoot] at standing
    split at standing
    · rename_i same
      rwa [List.append_cancel_left same]
    · exact frame.nameable steps entry standing
  · intro steps
    split
    · rename_i same
      rw [content?_eq_some_iff, same,
        FileTree.get?_insert_self _ _ _ notRoot]
    · rename_i different
      apply content?_congr
      intro other
      rw [FileTree.get?_insert_of_ne]
      intro same
      exact different (List.append_cancel_left same)

theorem Frame.write
    (frame : site.Frame start files)
    (free : site.IsFree start)
    (plain : ".." ∉ target)
    (below : target ≠ [])
    (done : files.write (site.path target) content = .ok later) :
    site.Frame start later ∧
      ∀ steps,
        site.content? later steps =
          if steps = target then some content
          else site.content? files steps := by
  obtain ⟨address, located, notDirectory, rfl⟩ :=
    FileTree.write_eq_ok_iff.1 done
  obtain ⟨rfl, nameable, holder⟩ :=
    frame.of_locate free plain below located
  exact frame.insert free below nameable holder notDirectory

theorem parent_path
    (below : target ≠ []) :
    (site.path target).parent = site.path target.dropLast := by
  have some : site.names ++ target ≠ [] := by
    simp [below]
  simp [path, DiskPath.parent, DiskPath.down,
    List.dropLast_append_of_ne_nil some,
    List.dropLast_append_of_ne_nil below]

/-- A file is written, and the directories above it are made. -/
theorem Frame.place
    (frame : site.Frame start files)
    (free : site.IsFree start)
    (plain : ".." ∉ target)
    (below : target ≠ [])
    (done : files.place (site.path target) content = .ok later) :
    site.Frame start later ∧
      ∀ steps,
        site.content? later steps =
          if steps = target then some content
          else site.content? files steps := by
  unfold FileTree.place at done
  rw [parent_path below] at done
  cases made : files.ensureDirectories (site.path target.dropLast) with
  | error fault =>
      rw [made] at done
      cases done
  | ok above =>
      rw [made, ok_bind] at done
      have plainAbove : ".." ∉ target.dropLast :=
        fun member => plain (List.dropLast_subset target member)
      obtain ⟨framed, same, _⟩ :=
        frame.ensureDirectories free plainAbove made
      obtain ⟨final, written⟩ := framed.write free plain below done
      refine ⟨final, ?_⟩
      intro steps
      rw [written, same]

/-! ## Removing -/

/-- A directory is removed with all files in it. -/
theorem Frame.removeTree
    (frame : site.Frame start files)
    (free : site.IsFree start)
    (plain : ".." ∉ target)
    (below : target ≠ [])
    (done : files.removeTree (site.path target) = .ok later) :
    site.Frame start later ∧
      ∀ steps,
        site.content? later steps =
          if target <+: steps then none
          else site.content? files steps := by
  obtain ⟨address, found, rfl⟩ := FileTree.removeTree_eq_ok_iff.1 done
  obtain ⟨rfl, _⟩ := (frame.find_eq_ok_iff free plain).1 found
  have notRoot : site.home ++ target ≠ [] := by
    simp [below]
  refine ⟨⟨frame.sound.erase notRoot, ?_, ?_⟩, ?_⟩
  · intro address entry standing
    rw [FileTree.get?_erase notRoot, if_neg]
    · exact frame.keeps _ _ standing
    · rintro ⟨names, rfl⟩
      rw [List.append_assoc, free.get?_eq_none] at standing
      cases standing
  · intro steps entry standing
    rw [FileTree.get?_erase notRoot] at standing
    split at standing
    · cases standing
    · exact frame.nameable steps entry standing
  · intro steps
    unfold content?
    simp only [FileTree.get?_erase notRoot, List.prefix_append_right_inj]
    by_cases inside : target <+: steps
    · simp only [inside, if_true]
    · simp only [inside, if_false]

/-! ## Moving -/

/-- A file is moved within the directory. -/
theorem Frame.rename
    (frame : site.Frame start files)
    (free : site.IsFree start)
    (plain : ".." ∉ steps)
    (present : site.content? files steps = some content)
    (plainTarget : ".." ∉ target)
    (below : target ≠ [])
    (done :
      files.rename (site.path steps) (site.path target) = .ok later) :
    site.Frame start later ∧
      ∀ others,
        site.content? later others =
          if others = target then some content
          else if others = steps then none
          else site.content? files others := by
  rw [content?_eq_some_iff] at present
  have found := (frame.find_eq_ok_iff free plain).2 ⟨rfl, present⟩
  obtain ⟨finish, located, notDirectory, rfl⟩ :=
    (FileTree.rename_eq_ok_iff found).1 done
  obtain ⟨rfl, nameable, holder⟩ :=
    frame.of_locate free plainTarget below located
  have notRoot : site.home ++ target ≠ [] := by
    simp [below]
  have standing :=
    FileTree.get?_moveEntries_of_file frame.sound present notRoot
      notDirectory
  refine ⟨⟨?_, ?_, ?_⟩, ?_⟩
  · cases target using List.reverseRecOn with
    | nil => exact absurd rfl below
    | append_singleton front last _ =>
        rw [List.dropLast_concat] at holder
        rw [← List.append_assoc]
        exact frame.sound.moveEntries present holder
  · intro address entry known
    have apart : ∀ names, address ≠ site.home ++ names := by
      rintro names rfl
      rw [free.get?_eq_none] at known
      cases known
    rw [standing, if_neg (apart target), if_neg (apart steps)]
    exact frame.keeps _ _ known
  · intro others entry known
    rw [standing] at known
    split at known
    · rename_i same
      rwa [List.append_cancel_left same]
    · split at known
      · cases known
      · exact frame.nameable others entry known
  · intro others
    unfold content?
    simp only [standing, List.append_cancel_left_eq]
    by_cases isTarget : others = target
    · simp only [isTarget, if_true]
    · simp only [isTarget, if_false]
      by_cases isSource : others = steps
      · simp only [isSource, if_true]
      · simp only [isSource, if_false]

end Site

end CrateShelf
