import CrateShelf.Proofs.Tree.Attaching
import CrateShelf.Proofs.Tree.Declared
import CrateShelf.Proofs.Tree.Linking

/-!
# Blocks that are dropped

A block is dropped if something hidden stands at the path it is attached to.
Types share their paths with functions, macros and constants of the same name,
and the paths of all hidden items are remembered together.

Main statement: a block that is attached to a documented type is dropped
exactly when something else with the path of the type is left out.
-/

namespace CrateShelf.Tree

open Source (Declaration)

variable
    {files : FileTree}
    {crate : CrateId}
    {skipsHidden : Bool}
    {file? : Option DiskPath}
    {declarations : List Declaration}
    {tree : CrateTree}
    {attached : Attached}

/-- A type of a crate is documented by a struct, an enum or a trait. -/
theorem exists_record_of_mem_types
    (crate : CrateId)
    {path : ItemPath}
    (known : path ∈ (TypeIndex.ofTree tree).types) :
    ∃ record ∈ (records crate tree).1, isTypeAt path record = true := by
  obtain ⟨owner, uses, items, last, item, member, typed⟩ :=
    (TypeIndex.mem_types_ofTree tree path).1 known
  have stands : item.keys.any (Key.isTypeAt path) = true := by
    rw [any_isTypeAt_keys, decide_eq_true_eq]
    cases item with
    | struct | enum | trait =>
        simp [Item.typePaths, typed]
    | _ => cases typed
  obtain ⟨key, among, isType⟩ := List.any_eq_true.1 stands
  have listed : key ∈ tree.root.keys :=
    (keys_of_mem_modules tree.root _ (mem_of_lastAt? last)).2
      (mem_keysOfAll.2 ⟨item, member, among⟩)
  exact (exists_record_iff_key crate tree
    fun key => key.isTypeAt path = true).2 (Or.inl ⟨key, listed, isType⟩)

section

variable [Depths]

/-- A block is kept unless something at its path is left out. -/
theorem mem_resolve_iff_not_isLeftOut
    (read : treeOf files crate skipsHidden file? declarations = .ok tree)
    (member : attached ∈ attachAll tree) :
    attached ∈ (resolve tree).1 ↔
      ¬ ∃ part ∈ declarationsWithNotes [] declarations,
        IsLeftOut files skipsHidden (rootPlace crate file?) part.1 part.2
          attached.target := by
  obtain ⟨outline, isRead⟩ := exists_isRead read
  rw [← isRead.reads.mem_hidden_iff, ← isRead.hidden_iff,
    mem_resolve_iff_mem_attachAll]
  exact and_iff_right member

/--
A block is attached to a type of a crate that was read.  Then the type is
documented, and the block is kept unless something is declared at the path of
the type that is left out because it is hidden.  If the block is kept, all its
items are documented below the type.
-/
theorem isDocumented_and_kept_iff
    (read : treeOf files crate skipsHidden file? declarations = .ok tree)
    (member : attached ∈ attachAll tree)
    (resolved : attached.isResolved = true) :
    (∃ record ∈ (records crate tree).1,
      isTypeAt attached.target record = true) ∧
    (attached ∈ (resolve tree).1 ↔
      ¬ ∃ part ∈ declarationsWithNotes [] declarations,
        IsLeftOut files skipsHidden (rootPlace crate file?) part.1 part.2
          attached.target) ∧
    (attached ∈ (resolve tree).1 →
      ∀ item ∈ attached.block.items,
        ∃ record ∈ (records crate tree).1,
          record.key = ⟨item.name, item.content.implKind,
            attached.target.push item.name⟩) := by
  obtain ⟨_, _, _, _, _, finds⟩ := exists_reading_of_isResolved member resolved
  refine ⟨exists_record_of_mem_types crate
      (TypeIndex.mem_types_of_lookup? finds),
    mem_resolve_iff_not_isLeftOut read member, fun kept item among => ?_⟩
  refine (exists_record_iff_key crate tree (· = _)).2
    (Or.inr ⟨attached, kept, _, ?_, rfl⟩)
  exact List.mem_map_of_mem among

end

/-! ## A function with the name of a type -/

section

attribute [local instance] Depths.usual

/-- A crate with a struct, a hidden function of the same name, another struct
and a block for each struct. -/
def namesakeCrate : List Declaration :=
  [ .note (.attribute .outer "#[doc(hidden)]".toList),
    .function ⟨"S", .everywhere, "pub fn S()", false, false, []⟩,
    .struct "S" .everywhere (.named []), .struct "T" .everywhere .unit,
    .impl ⟨"S", none, false, 70⟩
      (some [.function ⟨"f", .everywhere, "fn f()", false, false, []⟩]),
    .impl ⟨"T", none, false, 99⟩
      (some [.function ⟨"f", .everywhere, "fn f()", false, false, []⟩]) ]

/-- A block of the crate. -/
def namesakeBlock (targetText : String) (start order : Nat) : Impl where
  modulePath := ⟨["krate"]⟩
  targetText
  traitText := none
  safety := .normal
  items := [⟨"f", .everywhere, [],
    .method ⟨"fn f()", .normal, .notConst, .rust, .inherentMethod⟩⟩]
  docs := []
  file? := none
  start
  order

/-- The tree of the crate. -/
def namesakeTree : CrateTree where
  head := ⟨"krate", ⟨["krate"]⟩, .everywhere, []⟩
  info := { isRoot := true }
  items :=
    [ .struct ⟨"S", ⟨["krate", "S"]⟩, .everywhere, []⟩ [] false,
      .struct ⟨"T", ⟨["krate", "T"]⟩, .everywhere, []⟩ [] false,
      .impl 0, .impl 1 ]
  impls := [namesakeBlock "S" 70 0, namesakeBlock "T" 99 1]
  hidden := [⟨["krate", "S"]⟩]

theorem treeOf_namesakeCrate :
    treeOf {} sampleCrate true none namesakeCrate = .ok namesakeTree := rfl

theorem attachAll_namesakeTree :
    attachAll namesakeTree =
      [ ⟨namesakeBlock "S" 70 0, ⟨["krate", "S"]⟩, true⟩,
        ⟨namesakeBlock "T" 99 1, ⟨["krate", "T"]⟩, true⟩ ] := by
  have first : (TypeIndex.ofTree namesakeTree).candidates
      (namesakeBlock "S" 70 0) = [⟨["krate", "S"]⟩] := by
    decide
  have second : (TypeIndex.ofTree namesakeTree).candidates
      (namesakeBlock "T" 99 1) = [⟨["krate", "T"]⟩] := by
    decide
  have finds (path : ItemPath)
      (known : path ∈ (TypeIndex.ofTree namesakeTree).types) :
      (TypeIndex.ofTree namesakeTree).lookup? path = some path :=
    TypeIndex.lookup?_of_mem_types known
  have blocks : namesakeTree.orderedImpls =
      [namesakeBlock "S" 70 0, namesakeBlock "T" 99 1] :=
    CrateTree.orderedImpls_of_pairwise namesakeTree (by decide)
  have firstFound := finds ⟨["krate", "S"]⟩ (by decide)
  have secondFound := finds ⟨["krate", "T"]⟩ (by decide)
  simp [attachAll, blocks, attach, first, second, firstFound, secondFound]

theorem isDocumented_and_kept_namesakeCrate :
    treeOf {} sampleCrate true none namesakeCrate = .ok namesakeTree ∧
      ∃ attached ∈ attachAll namesakeTree,
        attached.isResolved = true ∧ attached ∈ (resolve namesakeTree).1 ∧
          ∃ record ∈ (records sampleCrate namesakeTree).1,
            record.path = ⟨["krate", "T", "f"]⟩ := by
  have member : (⟨namesakeBlock "T" 99 1, ⟨["krate", "T"]⟩, true⟩ : Attached)
      ∈ attachAll namesakeTree := by
    simp [attachAll_namesakeTree]
  have kept := mem_resolve_iff_mem_attachAll.2
    (And.intro member (by decide : (⟨["krate", "T"]⟩ : ItemPath) ∉
      namesakeTree.hidden))
  obtain ⟨_, _, documented⟩ :=
    isDocumented_and_kept_iff treeOf_namesakeCrate member rfl
  obtain ⟨record, listed, same⟩ :=
    documented kept _ (List.mem_singleton_self _)
  exact ⟨treeOf_namesakeCrate, _, member, rfl, kept, record, listed,
    congrArg Key.path same⟩

/-- A block that is attached to a documented type is not always kept. -/
theorem not_always_kept :
    ¬ ∀ files crate skipsHidden file? declarations tree,
      treeOf files crate skipsHidden file? declarations = .ok tree →
      ∀ attached ∈ attachAll tree, attached.isResolved = true →
        attached ∈ (resolve tree).1 := by
  intro claimed
  have kept := claimed _ _ _ _ _ _ treeOf_namesakeCrate
    ⟨namesakeBlock "S" 70 0, ⟨["krate", "S"]⟩, true⟩
    (by simp [attachAll_namesakeTree]) rfl
  exact (mem_resolve_iff_mem_attachAll.1 kept).2 (List.mem_singleton_self _)

end

end CrateShelf.Tree
