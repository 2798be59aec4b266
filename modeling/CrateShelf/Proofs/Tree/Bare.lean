import CrateShelf.Proofs.Tree.Index
import CrateShelf.Tree.Flatten

/-!
# Crates without their places on the disk

A tree knows the files that its modules and blocks were read from and where
the blocks start.  None of this shows in the records of the crate.

Main statement: a crate has the records of its bare tree, which has no files
and offsets.
-/

namespace CrateShelf.Tree

/-- What a module has beside its items and its file. -/
def ModuleInfo.bare (info : ModuleInfo) : ModuleInfo :=
  { info with file? := none }

mutual

/-- An item without the files of modules. -/
def Item.bare : Item → Item
  | .module head info items => .module head info.bare (bareAll items)
  | .struct head fields isTuple => .struct head fields isTuple
  | .enum head variants => .enum head variants
  | .function head signature => .function head signature
  | .constant head typeText valueText => .constant head typeText valueText
  | .trait head safety items => .trait head safety items
  | .macroRules head text => .macroRules head text
  | .importing text visibility => .importing text visibility
  | .impl order => .impl order

/-- Items without the files of modules. -/
def bareAll : List Item → List Item
  | [] => []
  | item :: rest => item.bare :: bareAll rest

end

/-- A block without its place on the disk. -/
def Impl.bare (block : Impl) : Impl :=
  { block with file? := none, start := 0 }

@[simp]
theorem Impl.bare_modulePath (block : Impl) :
    block.bare.modulePath = block.modulePath := rfl

@[simp]
theorem Impl.bare_targetText (block : Impl) :
    block.bare.targetText = block.targetText := rfl

/-- An attached block without its place on the disk. -/
def Attached.bare (attached : Attached) : Attached :=
  { attached with block := attached.block.bare }

/-- A tree without the places of its modules and blocks on the disk. -/
def CrateTree.bare (tree : CrateTree) : CrateTree :=
  { tree with
    info := tree.info.bare
    items := bareAll tree.items
    impls := tree.impls.map Impl.bare }

/-! ## Items -/

theorem bareAll_eq_map (items : List Item) :
    bareAll items = items.map Item.bare := by
  induction items with
  | nil => rfl
  | cons item rest inductionStep => rw [bareAll, inductionStep, List.map_cons]

theorem bareAll_append (first second : List Item) :
    bareAll (first ++ second) = bareAll first ++ bareAll second := by
  simp only [bareAll_eq_map, List.map_append]

@[simp]
theorem linked?_bare (item : Item) : item.bare.linked? = item.linked? := by
  cases item with
  | _ => rfl

@[simp]
theorem typePath?_bare (item : Item) :
    typePath? item.bare = typePath? item := by
  cases item with
  | _ => rfl

theorem moduleLinks_bareAll (items : List Item) :
    moduleLinks (bareAll items) = moduleLinks items := by
  have same : ∀ kind, linksOfKind (bareAll items) kind =
      linksOfKind items kind := by
    intro kind
    rw [linksOfKind, bareAll_eq_map, List.filterMap_map]
    simp only [Function.comp_def, linked?_bare]
    rfl
  simp only [moduleLinks, same]

mutual

theorem records_bare (crate : CrateId) :
    (item : Item) → item.bare.records crate = item.records crate
  | .module head info items => by
    rw [Item.bare, Item.records, Item.records, moduleLinks_bareAll,
      recordsOfAll_bareAll crate items]
    rfl
  | .struct _ _ _ | .enum _ _ | .function _ _ | .constant _ _ _
  | .trait _ _ _ | .macroRules _ _ | .importing _ _ | .impl _ => rfl

theorem recordsOfAll_bareAll (crate : CrateId) :
    (items : List Item) →
      recordsOfAll crate (bareAll items) = recordsOfAll crate items
  | [] => rfl
  | item :: rest => by
    rw [bareAll, recordsOfAll, recordsOfAll, records_bare crate item,
      recordsOfAll_bareAll crate rest]

end

/-! ## Modules and types -/

/-- A module without the files of those in it. -/
def bareEntry (entry : ItemPath × UseTable × List Item) :
    ItemPath × UseTable × List Item :=
  (entry.1, entry.2.1, bareAll entry.2.2)

mutual

theorem modules_bare :
    (item : Item) → item.bare.modules = item.modules.map bareEntry
  | .module head info items => by
    rw [Item.bare, Item.modules, Item.modules, modulesOfAll_bareAll items]
    rfl
  | .struct _ _ _ | .enum _ _ | .function _ _ | .constant _ _ _
  | .trait _ _ _ | .macroRules _ _ | .importing _ _ | .impl _ => rfl

theorem modulesOfAll_bareAll :
    (items : List Item) →
      modulesOfAll (bareAll items) = (modulesOfAll items).map bareEntry
  | [] => rfl
  | item :: rest => by
    rw [bareAll, modulesOfAll, modulesOfAll, modules_bare item,
      modulesOfAll_bareAll rest, List.map_append]

end

theorem lastAt?_map_bareEntry
    (path : ItemPath)
    (modules : List (ItemPath × UseTable × List Item)) :
    lastAt? path (modules.map bareEntry) =
      (lastAt? path modules).map fun content =>
        (content.1, bareAll content.2) := by
  induction modules with
  | nil => rfl
  | cons entry rest inductionStep =>
      obtain ⟨known, uses, items⟩ := entry
      rw [List.map_cons, bareEntry, lastAt?, lastAt?, inductionStep,
        Option.map_or, apply_ite (Option.map _)]
      rfl

variable (tree : CrateTree)

theorem CrateTree.modules_root_bare :
    tree.bare.root.modules = tree.root.modules.map bareEntry :=
  modules_bare tree.root

namespace TypeIndex

theorem uses?_bare (path : ItemPath) :
    (ofTree tree.bare).uses? path = (ofTree tree).uses? path := by
  rw [uses?_ofTree, uses?_ofTree, tree.modules_root_bare,
    lastAt?_map_bareEntry, Option.map_map]
  rfl

theorem mem_types_bare_iff (path : ItemPath) :
    path ∈ (ofTree tree.bare).types ↔ path ∈ (ofTree tree).types := by
  rw [mem_types_ofTree, mem_types_ofTree, tree.modules_root_bare]
  simp only [lastAt?_map_bareEntry, Option.map_eq_some_iff, Prod.exists,
    Prod.mk.injEq]
  constructor
  · rintro ⟨owner, _, _, ⟨uses, items, last, rfl, rfl⟩, _, member, typed⟩
    rw [bareAll_eq_map] at member
    obtain ⟨item, among, rfl⟩ := List.mem_map.1 member
    exact ⟨owner, uses, items, last, item, among, by simpa using typed⟩
  · rintro ⟨owner, uses, items, last, item, member, typed⟩
    refine ⟨owner, _, _, ⟨uses, items, last, rfl, rfl⟩, item.bare, ?_, ?_⟩
    · rw [bareAll_eq_map]
      exact List.mem_map_of_mem member
    · rw [typePath?_bare, typed]

theorem lookup?_bare (path : ItemPath) :
    (ofTree tree.bare).lookup? path = (ofTree tree).lookup? path := by
  refine lookup?_congr fun goal _ => ⟨mem_types_bare_iff tree goal, ?_⟩
  have sameUses : (ofTree tree.bare).uses? = (ofTree tree).uses? :=
    funext (uses?_bare tree)
  rw [imports, imports, sameUses]

theorem candidates_bare (block : Impl) :
    (ofTree tree.bare).candidates block.bare =
      (ofTree tree).candidates block := by
  have sameRoot : (ofTree tree.bare).root = (ofTree tree).root := rfl
  simp only [candidates, uses?_bare, sameRoot, Impl.bare_modulePath,
    Impl.bare_targetText]

end TypeIndex

/-! ## Blocks and records -/

theorem attach_bare (block : Impl) :
    (attach (TypeIndex.ofTree tree.bare) tree.hidden block.bare).1 =
      (attach (TypeIndex.ofTree tree) tree.hidden block).1.bare := by
  have sameLookups : (TypeIndex.ofTree tree.bare).lookup? =
      (TypeIndex.ofTree tree).lookup? :=
    funext (TypeIndex.lookup?_bare tree)
  unfold attach
  rw [TypeIndex.candidates_bare, sameLookups]
  generalize (TypeIndex.ofTree tree).candidates block = readings
  dsimp only
  cases readings.findSome? (TypeIndex.ofTree tree).lookup? with
  | some found => rfl
  | none =>
      cases readings.find? fun path => decide (path ∈ tree.hidden) with
      | some path => rfl
      | none => rfl

theorem orderedImpls_bare :
    tree.bare.orderedImpls = tree.orderedImpls.map Impl.bare :=
  (List.map_mergeSort (f := Impl.bare) fun _ _ _ _ => rfl).symm

theorem attachAll_bare :
    attachAll tree.bare = (attachAll tree).map Attached.bare := by
  rw [attachAll, attachAll, orderedImpls_bare, List.map_map, List.map_map]
  exact List.map_congr_left fun block _ => attach_bare tree block

theorem isKept_bare (attached : Attached) :
    isKept tree.bare attached.bare = isKept tree attached := rfl

theorem resolve_bare :
    (resolve tree.bare).1 = (resolve tree).1.map Attached.bare := by
  rw [fst_resolve, fst_resolve, attachAll_bare, List.filter_map]
  simp only [Function.comp_def, isKept_bare]

theorem attachedRecords_bare
    (crate : CrateId)
    (attached : Attached) :
    attached.bare.records crate = attached.records crate := rfl

/-- The records of a crate do not show where its files and blocks are. -/
theorem records_fst_bare (crate : CrateId) :
    (records crate tree.bare).1 = (records crate tree).1 := by
  have top : tree.bare.root.records crate = tree.root.records crate :=
    records_bare crate tree.root
  have target : ∀ attached : Attached,
      attached.bare.target = attached.target := fun _ => rfl
  simp only [records, flatten, resolve_bare, top, List.foldl_map,
    List.flatMap_map, attachedRecords_bare, target]

/-- Crates with the same bare trees have the same records. -/
theorem records_fst_congr
    {tree other : CrateTree}
    (same : tree.bare = other.bare)
    (crate : CrateId) :
    (records crate tree).1 = (records crate other).1 := by
  rw [← records_fst_bare tree, same, records_fst_bare]

end CrateShelf.Tree
