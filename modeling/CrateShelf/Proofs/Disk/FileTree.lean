import CrateShelf.Disk.FileTree
import CrateShelf.Proofs.Association
import Mathlib.Data.List.Induction

/-!
# Sound trees of files

A tree of files is sound if no address comes twice and everything stands in a
directory.  It is known by what stands at every address.

Main statements: what stands where after an entry is put somewhere, after an
address is erased and after a file is moved, and that the tree stays sound.
-/

namespace CrateShelf.FileTree

/-- Whether no address comes twice and everything stands in a directory. -/
structure IsSound (tree : FileTree) : Prop where
  apart : (tree.entries.map Prod.fst).Nodup
  named : [] ∉ tree.entries.map Prod.fst
  held : ∀ (address : Address) (name : String) (entry : Entry),
    tree.get? (address ++ [name]) = some entry →
      tree.get? address = some .directory

variable
    {tree : FileTree}
    {address other : Address}
    {entry : Entry}

/-! ## What stands where -/

/-- What stands at an address is listed there. -/
theorem get?_eq_some_iff_mem
    (sound : tree.IsSound)
    (below : address ≠ []) :
    tree.get? address = some entry ↔ (address, entry) ∈ tree.entries := by
  rw [get?, if_neg below]
  exact lookup_eq_some_iff_mem sound.apart

/-- Above everything there are directories. -/
theorem IsSound.directory_of_append
    (sound : tree.IsSound)
    {names : List String}
    (present : tree.get? (address ++ names) = some entry)
    (some : names ≠ []) :
    tree.get? address = Option.some .directory := by
  induction names using List.reverseRecOn generalizing entry with
  | nil => exact absurd rfl some
  | append_singleton names name inductionStep =>
      rw [← List.append_assoc] at present
      have above := sound.held _ _ _ present
      cases names with
      | nil => simpa using above
      | cons first names => exact inductionStep above (by simp)

/-- Below what is no directory there is nothing. -/
theorem IsSound.get?_append_eq_none
    (sound : tree.IsSound)
    (different : tree.get? address ≠ some .directory)
    {names : List String}
    (some : names ≠ []) :
    tree.get? (address ++ names) = none := by
  cases present : tree.get? (address ++ names) with
  | none => rfl
  | some entry =>
      exact absurd (sound.directory_of_append present some) different

/-! ## Putting -/

theorem get?_insert_of_ne
    (different : other ≠ address) :
    (tree.insert address entry).get? other = tree.get? other := by
  unfold get? insert
  split
  · rfl
  · split
    · dsimp only
      induction tree.entries with
      | nil => rfl
      | cons known entries inductionStep =>
          obtain ⟨place, content⟩ := known
          by_cases same : place = address
          · have notOther : (other == address) = false := by
              simpa using different
            simp only [List.map_cons, same, if_true, List.lookup_cons,
              notOther, inductionStep]
          · simp only [List.map_cons, same, if_false, List.lookup_cons,
              inductionStep]
    · have notOther : (other == address) = false := by
        simpa using different
      dsimp only
      rw [List.lookup_append]
      simp [List.lookup_cons, notOther]

/-- After an entry is put somewhere, it stands there and everything else
where it was. -/
theorem get?_insert
    (below : address ≠ []) :
    (tree.insert address entry).get? other =
      if other = address then some entry else tree.get? other := by
  split
  · rename_i same
    rw [same, get?_insert_self tree address entry below]
  · rename_i different
    exact get?_insert_of_ne different

/-- The addresses after an entry is put somewhere. -/
theorem addresses_insert (tree : FileTree) (address : Address)
    (entry : Entry) :
    (tree.insert address entry).entries.map Prod.fst =
      if address ∈ tree.entries.map Prod.fst then
        tree.entries.map Prod.fst
      else tree.entries.map Prod.fst ++ [address] := by
  have taken :
      (tree.entries.any fun known => decide (known.1 = address)) = true ↔
        address ∈ tree.entries.map Prod.fst := by
    simp
  unfold insert
  by_cases known : address ∈ tree.entries.map Prod.fst
  · rw [if_pos (taken.2 known), if_pos known, List.map_map]
    apply List.map_congr_left
    intro entry _
    simp only [Function.comp_apply]
    split
    · rename_i same
      exact same.symm
    · rfl
  · rw [if_neg (fun any => known (taken.1 any)), if_neg known]
    simp

/-- An entry may be put into a directory, but not a file in the place of a
directory. -/
theorem IsSound.insert
    (sound : tree.IsSound)
    {name : String}
    (inDirectory : tree.get? address = some .directory)
    (kept : tree.get? (address ++ [name]) = some .directory →
      entry = .directory) :
    (tree.insert (address ++ [name]) entry).IsSound where
  apart := by
    rw [addresses_insert]
    split
    · exact sound.apart
    · rename_i new
      exact List.nodup_append.2
        ⟨sound.apart, by simp, fun first member second isNew equal => by
          rw [List.mem_singleton] at isNew
          exact new (isNew ▸ equal ▸ member)⟩
  named := by
    rw [addresses_insert]
    split
    · exact sound.named
    · simpa using sound.named
  held := by
    intro holder part present
    have below : address ++ [name] ≠ [] := by simp
    intro found
    rw [get?_insert below] at found ⊢
    have directory : tree.get? holder = some .directory := by
      split at found
      · rename_i same
        have parents := (List.append_inj' same rfl).1
        rw [parents]
        exact inDirectory
      · exact sound.held _ _ _ found
    split
    · rename_i same
      rw [same] at directory
      rw [kept directory]
    · exact directory

/-! ## Erasing -/

theorem get?_erase
    (below : address ≠ []) :
    (tree.erase address).get? other =
      if address <+: other then none else tree.get? other := by
  unfold get?
  by_cases root : other = []
  · subst root
    have outside : ¬ address <+: [] := by
      simpa using below
    simp [outside]
  · simp only [root, if_false, erase]
    by_cases inside : address <+: other
    · rw [if_pos inside, List.lookup_eq_none_iff]
      intro known member
      rw [List.mem_filter] at member
      have apart : other ≠ known.1 := by
        rintro rfl
        have prefixed := List.isPrefixOf_iff_prefix.2 inside
        simp [prefixed] at member
      simpa using apart
    · rw [if_neg inside]
      induction tree.entries with
      | nil => rfl
      | cons known entries inductionStep =>
          obtain ⟨place, content⟩ := known
          by_cases same : other = place
          · subst same
            have outside : address.isPrefixOf other = false := by
              rw [← Bool.not_eq_true, List.isPrefixOf_iff_prefix]
              exact inside
            simp [outside]
          · have notOther : (other == place) = false := by simpa using same
            rw [List.filter_cons]
            split
            · simp only [List.lookup_cons, notOther, inductionStep]
            · simp only [List.lookup_cons, notOther, inductionStep]

theorem IsSound.erase
    (sound : tree.IsSound)
    (below : address ≠ []) :
    (tree.erase address).IsSound where
  apart :=
    (List.Sublist.map Prod.fst List.filter_sublist).nodup sound.apart
  named := by
    intro member
    obtain ⟨known, inTree, root⟩ := List.mem_map.1 member
    exact sound.named
      (List.mem_map.2 ⟨known, (List.mem_filter.1 inTree).1, root⟩)
  held := by
    intro holder part present found
    rw [get?_erase below] at found ⊢
    split at found
    · cases found
    · rename_i outside
      have alsoOutside : ¬ address <+: holder := fun inside =>
        outside (inside.trans (List.prefix_append holder [part]))
      rw [if_neg alsoOutside]
      exact sound.held _ _ _ found

/-! ## Moving -/

/-- Only a file stands at or below the address of a file. -/
theorem filter_isPrefixOf_of_file
    (sound : tree.IsSound)
    {content : Bytes}
    (isFile : tree.get? address = some (.file content)) :
    tree.entries.filter (fun known => address.isPrefixOf known.1) =
      [(address, .file content)] := by
  have below : address ≠ [] := by
    rintro rfl
    rw [get?_root] at isFile
    cases isFile
  have nodup : tree.entries.Nodup := List.Nodup.of_map Prod.fst sound.apart
  apply List.perm_singleton.1
  rw [List.perm_ext_iff_of_nodup (nodup.filter _) (List.nodup_singleton _)]
  rintro ⟨known, standing⟩
  rw [List.mem_filter, List.isPrefixOf_iff_prefix, List.mem_singleton]
  constructor
  · rintro ⟨member, names, rfl⟩
    have placed : address ++ names ≠ [] := by simp [below]
    have found := (get?_eq_some_iff_mem sound placed).2 member
    have nothingBelow : names = [] := by
      by_contra some
      rw [sound.get?_append_eq_none (by simp [isFile]) some] at found
      cases found
    subst nothingBelow
    rw [List.append_nil] at found ⊢
    rw [isFile] at found
    cases found
    rfl
  · intro same
    cases same
    exact ⟨(get?_eq_some_iff_mem sound below).1 isFile, List.prefix_rfl⟩

/-- A file is moved by taking it away and putting it elsewhere. -/
theorem moveEntries_of_file
    (sound : tree.IsSound)
    {content : Bytes}
    (isFile : tree.get? address = some (.file content)) :
    tree.moveEntries address other =
      ((tree.erase address).erase other).insert other (.file content) := by
  have moved :
      (tree.entries.filterMap fun known =>
        if address.isPrefixOf known.1 then
          some (other ++ known.1.drop address.length, known.2)
        else none) = [(other, .file content)] := by
    have all :
        (tree.entries.filterMap fun known =>
          if address.isPrefixOf known.1 then
            some (other ++ known.1.drop address.length, known.2)
          else none) =
          (tree.entries.filter fun known => address.isPrefixOf known.1).map
            fun known => (other ++ known.1.drop address.length, known.2) := by
      rw [← List.filterMap_eq_map, List.filterMap_filter]
      rfl
    rw [all, filter_isPrefixOf_of_file sound isFile]
    simp
  have whole :
      tree.moveEntries address other =
        ⟨((tree.erase address).erase other).entries ++
          tree.entries.filterMap fun known =>
            if address.isPrefixOf known.1 then
              some (other ++ known.1.drop address.length, known.2)
            else none⟩ := rfl
  have absent :
      other ∉ ((tree.erase address).erase other).entries.map Prod.fst := by
    intro member
    obtain ⟨known, inTree, rfl⟩ := List.mem_map.1 member
    have outside := (List.mem_filter.1 inTree).2
    have prefixed : known.1.isPrefixOf known.1 = true :=
      List.isPrefixOf_iff_prefix.2 List.prefix_rfl
    simp [prefixed] at outside
  have free :
      (((tree.erase address).erase other).entries.any fun known =>
        decide (known.1 = other)) = false := by
    rw [Bool.eq_false_iff]
    intro any
    apply absent
    simpa using any
  unfold insert
  rw [whole, moved, free]
  rfl

theorem get?_eq_none_of_inside
    (sound : tree.IsSound)
    (different : tree.get? address ≠ some .directory)
    (inside : address <+: other)
    (apart : other ≠ address) :
    tree.get? other = none := by
  obtain ⟨names, rfl⟩ := inside
  apply sound.get?_append_eq_none different
  rintro rfl
  exact apart (List.append_nil address)

/-- After a file is moved, it stands at its new address and no longer at the
old one. -/
theorem get?_moveEntries_of_file
    (sound : tree.IsSound)
    {content : Bytes}
    (isFile : tree.get? address = some (.file content))
    (below : other ≠ [])
    (free : tree.get? other ≠ some .directory)
    (third : Address) :
    (tree.moveEntries address other).get? third =
      if third = other then some (.file content)
      else if third = address then none
      else tree.get? third := by
  have notRoot : address ≠ [] := by
    rintro rfl
    rw [get?_root] at isFile
    cases isFile
  have noDirectory : tree.get? address ≠ some .directory := by
    rw [isFile]
    simp
  rw [moveEntries_of_file sound isFile, get?_insert below]
  split
  · rfl
  · rename_i notTarget
    rw [get?_erase below, get?_erase notRoot]
    by_cases same : third = address
    · subst same
      simp
    · rw [if_neg same]
      split
      · rename_i inside
        exact (get?_eq_none_of_inside sound free inside notTarget).symm
      · split
        · rename_i inside
          exact (get?_eq_none_of_inside sound noDirectory inside same).symm
        · rfl

/-- A file may be moved into a directory, but not to the place of one. -/
theorem IsSound.moveEntries
    (sound : tree.IsSound)
    {content : Bytes}
    {name : String}
    (isFile : tree.get? address = some (.file content))
    (inDirectory : tree.get? other = some .directory) :
    (tree.moveEntries address (other ++ [name])).IsSound := by
  have notRoot : address ≠ [] := by
    rintro rfl
    rw [get?_root] at isFile
    cases isFile
  have below : other ++ [name] ≠ [] := by simp
  rw [moveEntries_of_file sound isFile]
  apply ((sound.erase notRoot).erase below).insert
  · have outside : ¬ address <+: other := by
      rintro ⟨names, rfl⟩
      have fileOrNothing : tree.get? address = some .directory := by
        cases names with
        | nil => simpa using inDirectory
        | cons first names =>
            exact sound.directory_of_append inDirectory (by simp)
      rw [isFile] at fileOrNothing
      cases fileOrNothing
    have alsoOutside : ¬ other ++ [name] <+: other := by
      intro inside
      have longer := inside.length_le
      simp only [List.length_append, List.length_singleton] at longer
      omega
    rw [get?_erase below, if_neg alsoOutside, get?_erase notRoot,
      if_neg outside]
    exact inDirectory
  · rw [get?_erase below, if_pos List.prefix_rfl]
    intro impossible
    cases impossible

end CrateShelf.FileTree
