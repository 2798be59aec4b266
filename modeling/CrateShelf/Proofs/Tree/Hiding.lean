import CrateShelf.Proofs.Tree.Declared
import CrateShelf.Proofs.Tree.Index

/-!
# Records of hidden items

Hidden items are left out of the tree of a crate, together with all that is
declared in them.  `impl` blocks are looked at after that: one whose type is
known to be hidden is left out, but a type inside of something hidden is not
known at all.

Main statement: there is a record at or below a hidden path exactly when the
items of a block are documented there, because its type is neither a type of
the crate nor marked as hidden itself, or because one of its items has just
this path.
-/

namespace CrateShelf.Tree

open Docs (Note)
open Source (Declaration)

variable
    {files : FileTree}
    {crate : CrateId}
    {file? : Option DiskPath}
    {declarations : List Declaration}
    {tree : CrateTree}
    {path : ItemPath}

section

variable [Depths]

/-- Nothing in a tree stands at or below a path at which nothing is declared
without the mark. -/
theorem not_startsWith_of_mem_keys
    {outline : Outline}
    (read : IsRead files crate true file? declarations tree outline)
    (below : path.IsBelow (rootPlace crate file?).path)
    (marked : ¬ IsUnmarkedAt files (rootPlace crate file?)
      (declarationsWithNotes [] declarations) path)
    {key : Key}
    (member : key ∈ tree.root.keys) :
    ¬ key.path.startsWith path = true := by
  intro starts
  rw [CrateTree.root, Item.keys, List.mem_cons, read.items_eq] at member
  rcases member with rfl | member
  · have top : (tree.head.key .module).path =
      (rootPlace crate file?).path := read.path_eq
    rw [top] at starts
    exact below.2 (ItemPath.startsWith_antisymm below.1 starts)
  · have shown := (read.reads.reaches member).each path below starts
    exact marked shown.isUnmarkedAt

/-- No type of the crate stands at or below a path at which nothing is
declared without the mark. -/
theorem not_startsWith_of_mem_types
    {outline : Outline}
    (read : IsRead files crate true file? declarations tree outline)
    (below : path.IsBelow (rootPlace crate file?).path)
    (marked : ¬ IsUnmarkedAt files (rootPlace crate file?)
      (declarationsWithNotes [] declarations) path)
    {target : ItemPath}
    (known : target ∈ (TypeIndex.ofTree tree).types) :
    ¬ target.startsWith path = true := by
  obtain ⟨key, member, rfl, _⟩ := TypeIndex.exists_key_of_mem_types known
  apply not_startsWith_of_mem_keys read below marked
  rw [CrateTree.root, Item.keys]
  exact List.mem_cons_of_mem _ member

omit [Depths] in
/-- There is a record with a property of its path exactly when the tree or a
documented block has one. -/
theorem exists_record_iff (crate : CrateId) (tree : CrateTree)
    (property : ItemPath → Prop) :
    (∃ record ∈ (records crate tree).1, property record.path) ↔
      (∃ key ∈ tree.root.keys, property key.path) ∨
        ∃ attached ∈ (resolve tree).1, ∃ item ∈ attached.block.items,
          property (attached.target.push item.name) := by
  refine (exists_record_iff_key crate tree
    fun key => property key.path).trans (or_congr_right ?_)
  simp [Attached.keys, assocKeys]

/-- The hidden paths of a crate are those declared with the mark, outside of
hidden modules. -/
theorem mem_hidden_iff_isHiddenAt
    (read : treeOf files crate true file? declarations = .ok tree)
    (path : ItemPath) :
    path ∈ tree.hidden ↔
      IsHiddenAt files true (rootPlace crate file?)
        (declarationsWithNotes [] declarations) path := by
  obtain ⟨outline, read⟩ := exists_isRead read
  rw [read.hidden_iff, read.reads.mem_hidden_iff_isHiddenAt]

/--
Something is declared with the mark for hidden items, and at its path nothing
is declared without it.  Then there is a record at or below this path exactly
when an item of a documented block has the path, or a block is documented
there that is stray: none of its readings leads to a type of the crate, and
none is itself the path of something declared with the mark in modules
without it.
-/
theorem exists_record_under_hidden_iff
    (read : treeOf files crate true file? declarations = .ok tree)
    (hidden : IsHiddenAt files false (rootPlace crate file?)
      (declarationsWithNotes [] declarations) path)
    (marked : ¬ IsUnmarkedAt files (rootPlace crate file?)
      (declarationsWithNotes [] declarations) path) :
    (∀ text, Source.parse text = .ok declarations →
      (document files crate true text file?).1 =
        .ok (records crate tree).1) ∧
    (∀ other, other ∈ tree.hidden ↔
      IsHiddenAt files true (rootPlace crate file?)
        (declarationsWithNotes [] declarations) other) ∧
    ((∃ record ∈ (records crate tree).1,
        record.path.startsWith path = true) ↔
      ∃ attached ∈ (resolve tree).1, ∃ item ∈ attached.block.items,
        attached.target.push item.name = path ∨
        IsStray (TypeIndex.ofTree tree) tree.hidden attached.block ∧
          attached.target = strayTarget (TypeIndex.ofTree tree)
            attached.block ∧
          attached.target.startsWith path = true) := by
  refine ⟨fun text parsed => ?_, mem_hidden_iff_isHiddenAt read, ?_⟩
  · rw [document_of_parse parsed, read]
    rfl
  obtain ⟨outline, isRead⟩ := exists_isRead read
  obtain ⟨part, _, inner, holder, declares, _⟩ := hidden
  have below : path.IsBelow (rootPlace crate file?).path := declares.isBelow
  rw [exists_record_iff crate tree (·.startsWith path = true)]
  constructor
  · rintro (⟨key, member, starts⟩ | ⟨attached, kept, item, among, starts⟩)
    · exact absurd starts
        (not_startsWith_of_mem_keys isRead below marked member)
    · refine ⟨attached, kept, item, among, ?_⟩
      rcases ItemPath.startsWith_push_iff.1 starts with same | above
      · exact Or.inl same.symm
      · rcases mem_types_or_isStray kept with known | ⟨stray, same⟩
        -- A type of the crate has a record of its own, so it is not hidden.
        · exact absurd above
            (not_startsWith_of_mem_types isRead below marked known)
        · exact Or.inr ⟨stray, same, above⟩
  · rintro ⟨attached, kept, item, among, same | ⟨_, _, above⟩⟩
    · refine Or.inr ⟨attached, kept, item, among, ?_⟩
      rw [same]
      exact ItemPath.startsWith_refl path
    · exact Or.inr ⟨attached, kept, item, among,
        ItemPath.startsWith_push_iff.2 (Or.inr above)⟩

end

/-! ## A stray block -/

section

attribute [local instance] Depths.usual

/-- A crate with a hidden module and a block for a type inside of it. -/
def strayCrate : List Declaration :=
  [ .note (.attribute .outer "#[doc(hidden)]".toList),
    .module "m" .everywhere (some [.struct "S" .everywhere .unit]),
    .impl ⟨"m::S", none, false, 43⟩
      (some [.function ⟨"f", .everywhere, "fn f()", false, false, []⟩]) ]

/-- The block of the crate. -/
def strayBlock : Impl where
  modulePath := ⟨["krate"]⟩
  targetText := "m::S"
  traitText := none
  safety := .normal
  items := [⟨"f", .everywhere, [],
    .method ⟨"fn f()", .normal, .notConst, .rust, .inherentMethod⟩⟩]
  docs := []
  file? := none
  start := 43
  order := 0

/-- The tree of the crate. -/
def strayTree : CrateTree where
  head := ⟨"krate", ⟨["krate"]⟩, .everywhere, []⟩
  info := { isRoot := true }
  items := [.impl 0]
  impls := [strayBlock]
  hidden := [⟨["krate", "m"]⟩]

theorem treeOf_strayCrate :
    treeOf {} sampleCrate true none strayCrate = .ok strayTree := rfl

theorem attach_strayBlock :
    attach (TypeIndex.ofTree strayTree) strayTree.hidden strayBlock =
      (⟨strayBlock, ⟨["krate", "m", "S"]⟩, false⟩, false) := by
  have readings : (TypeIndex.ofTree strayTree).candidates strayBlock =
      [⟨["krate", "m", "S"]⟩] := by
    decide
  have unknown : (TypeIndex.ofTree strayTree).lookup?
      ⟨["krate", "m", "S"]⟩ = none :=
    TypeIndex.lookup?_of_imports_eq_nil (by decide)
      (by decide)
  have hidden : strayTree.hidden = [⟨["krate", "m"]⟩] := rfl
  simp [attach, readings, unknown, hidden]

theorem mem_resolve_strayTree :
    ⟨strayBlock, ⟨["krate", "m", "S"]⟩, false⟩ ∈ (resolve strayTree).1 := by
  rw [mem_resolve_iff]
  refine ⟨strayBlock, List.mem_singleton_self _, ?_, by decide⟩
  rw [attach_strayBlock]

theorem hides_module_strayCrate :
    ∃ part ∈ declarationsWithNotes [] strayCrate,
      ∃ notes declaration,
        Declares {} false (rootPlace sampleCrate none) part.1 part.2
            ⟨["krate", "m"]⟩ notes declaration ∧
          isModule declaration = true ∧ (said notes).hidden = true := by
  refine ⟨_, List.mem_cons_self, _, _, .own rfl, rfl, ?_⟩
  decide

theorem isHiddenAt_strayCrate :
    IsHiddenAt {} false (rootPlace sampleCrate none)
      (declarationsWithNotes [] strayCrate) ⟨["krate", "m"]⟩ := by
  obtain ⟨part, member, notes, declaration, declares, _, hidden⟩ :=
    hides_module_strayCrate
  exact ⟨part, member, notes, declaration, declares, hidden⟩

theorem not_isUnmarkedAt_strayCrate :
    ¬ IsUnmarkedAt {} (rootPlace sampleCrate none)
      (declarationsWithNotes [] strayCrate) ⟨["krate", "m"]⟩ := by
  rintro ⟨part, member, owner, inner, declaration, declares, stands⟩
  have shape : declarationsWithNotes [] strayCrate =
    [([.attribute .outer "#[doc(hidden)]".toList], strayCrate[1]),
      ([], strayCrate[2])] := rfl
  rw [shape, List.mem_cons, List.mem_singleton] at member
  rcases member with rfl | rfl
  · cases declares with
    | own named =>
        have hidden : (said [.attribute .outer
          "#[doc(hidden)]".toList]).hidden = true := by decide
        rcases stands with ⟨_, plain⟩ | ⟨piece, among, _⟩
        · rw [hidden] at plain
          cases plain
        · cases among
    | inside _ opens member within =>
        have below := within.isBelow
        rw [path_of_opened? opens] at below
        rcases stands with ⟨rfl, _⟩ | ⟨piece, _, _, same⟩
        · exact below.2 rfl
        · have above := ItemPath.startsWith_push owner piece.2
          rw [← same] at above
          exact below.2 (ItemPath.startsWith_antisymm below.1 above)
  · exact not_declares_of_isNameless rfl declares

theorem exists_record_under_hidden_strayCrate :
    treeOf {} sampleCrate true none strayCrate = .ok strayTree ∧
      IsHiddenAt {} false (rootPlace sampleCrate none)
        (declarationsWithNotes [] strayCrate) ⟨["krate", "m"]⟩ ∧
      ¬ IsUnmarkedAt {} (rootPlace sampleCrate none)
        (declarationsWithNotes [] strayCrate) ⟨["krate", "m"]⟩ ∧
      ∃ record ∈ (records sampleCrate strayTree).1,
        record.path.startsWith ⟨["krate", "m"]⟩ = true := by
  refine ⟨treeOf_strayCrate, isHiddenAt_strayCrate,
    not_isUnmarkedAt_strayCrate, ?_⟩
  have under := (exists_record_under_hidden_iff treeOf_strayCrate
    isHiddenAt_strayCrate not_isUnmarkedAt_strayCrate).2.2
  rcases mem_types_or_isStray mem_resolve_strayTree with known | ⟨stray, same⟩
  · cases known
  · exact under.2 ⟨_, mem_resolve_strayTree, _, List.mem_singleton_self _,
      Or.inr ⟨stray, same, by decide⟩⟩

/-- Hidden modules can have records below them: those of the items of a block
for a type inside of one. -/
theorem not_always_without_records :
    ¬ ∀ files crate file? declarations tree path,
      treeOf files crate true file? declarations = .ok tree →
      (∃ part ∈ declarationsWithNotes [] declarations,
        ∃ notes declaration,
          Declares files false (rootPlace crate file?) part.1 part.2 path
              notes declaration ∧
            isModule declaration = true ∧ (said notes).hidden = true) →
      ¬ IsUnmarkedAt files (rootPlace crate file?)
        (declarationsWithNotes [] declarations) path →
      ¬ ∃ record ∈ (records crate tree).1,
        record.path.startsWith path = true := by
  intro claimed
  refine claimed _ _ _ _ _ _ treeOf_strayCrate hides_module_strayCrate
    not_isUnmarkedAt_strayCrate ?_
  rw [exists_record_iff sampleCrate strayTree
    (·.startsWith ⟨["krate", "m"]⟩ = true)]
  exact Or.inr ⟨_, mem_resolve_strayTree, _, List.mem_singleton_self _,
    by decide⟩

end

end CrateShelf.Tree
