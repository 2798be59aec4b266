import CrateShelf.Tree.Flatten
import Mathlib.Logic.Basic

/-!
# What records are told apart by

The name, kind and path of each record that a crate is documented by, without
the rest of the record.

Main statement: the records of a crate are those of its tree, in order, and
those of the items of its `impl` blocks.  Links do not change them.
-/

namespace CrateShelf

/-- What a record is found by. -/
structure Tree.Key where
  name : Label
  kind : Kind
  path : ItemPath
deriving DecidableEq

/-- What the record is found by. -/
def Record.key (record : Record) : Tree.Key :=
  ⟨record.name, record.kind, record.path⟩

namespace Tree

/-! ## Items -/

/-- The key of an item with a head. -/
def Head.key (head : Head) (kind : Kind) : Key :=
  ⟨head.name, kind, head.path⟩

/-- The keys of the named fields of a struct at a path. -/
def fieldKeys (owner : ItemPath) (fields : List Field) : List Key :=
  fields.filterMap fun field =>
    field.name.map fun (name : String) =>
      ⟨name, .structField, owner.push name⟩

/-- The keys of the variants of an enum at a path. -/
def variantKeys (owner : ItemPath) (variants : List Variant) : List Key :=
  variants.map fun variant =>
    ⟨variant.name, .variant, owner.push variant.name⟩

/-- The keys of items at a path, given the kind of each. -/
def assocKeys (kind : AssocContent → Kind) (owner : ItemPath)
    (items : List AssocItem) : List Key :=
  items.map fun item => ⟨item.name, kind item.content, owner.push item.name⟩

theorem assocKeys_subset
    (kind : AssocContent → Kind)
    (owner : ItemPath)
    {items others : List AssocItem}
    (subset : items ⊆ others) :
    assocKeys kind owner items ⊆ assocKeys kind owner others :=
  List.map_subset _ subset

mutual

/-- The keys of an item and all that is declared in it. -/
def Item.keys : Item → List Key
  | .module head _ items => head.key .module :: keysOfAll items
  | .struct head fields _ => head.key .struct :: fieldKeys head.path fields
  | .enum head variants => head.key .enum :: variantKeys head.path variants
  | .function head _ => [head.key .function]
  | .constant head _ _ => [head.key .constant]
  | .trait head _ items =>
    head.key .trait :: assocKeys AssocContent.traitKind head.path items
  | .macroRules head _ => [head.key .macroRules]
  | .importing _ _ | .impl _ => []

/-- The keys of items, one after the other. -/
def keysOfAll : List Item → List Key
  | [] => []
  | item :: rest => item.keys ++ keysOfAll rest

end

theorem keysOfAll_append (items others : List Item) :
    keysOfAll (items ++ others) = keysOfAll items ++ keysOfAll others := by
  induction items with
  | nil => rfl
  | cons item items inductionStep =>
      rw [List.cons_append, keysOfAll, keysOfAll, inductionStep,
        List.append_assoc]

theorem mem_keysOfAll {key : Key} {items : List Item} :
    key ∈ keysOfAll items ↔ ∃ item ∈ items, key ∈ item.keys := by
  induction items with
  | nil => simp [keysOfAll]
  | cons item items inductionStep =>
      simp [keysOfAll, inductionStep]

theorem map_key_structRecords (crate : CrateId) (head : Head)
    (fields : List Field) (isTuple : Bool) :
    (structRecords crate head fields isTuple).map Record.key =
      head.key .struct :: fieldKeys head.path fields := by
  have each : ∀ field, (Field.record? crate head.path field).map Record.key =
      field.name.map fun (name : String) =>
        (⟨name, .structField, head.path.push name⟩ : Key) := by
    intro field
    simp [Field.record?, Record.key, Function.comp_def]
  simp only [structRecords, List.map_cons, List.map_filterMap, fieldKeys,
    each]
  rfl

theorem map_key_enumRecords (crate : CrateId) (head : Head)
    (variants : List Variant) :
    (enumRecords crate head variants).map Record.key =
      head.key .enum :: variantKeys head.path variants := by
  simp [enumRecords, variantKeys, Record.key, Head.record, Head.key,
    Variant.record]

theorem map_key_traitRecords (crate : CrateId) (head : Head)
    (safety : Safety) (items : List AssocItem) :
    (traitRecords crate head safety items).map Record.key =
      head.key .trait ::
        assocKeys AssocContent.traitKind head.path items := by
  simp [traitRecords, assocKeys, Record.key, Head.record, Head.key,
    AssocItem.record]

mutual

theorem map_key_records (crate : CrateId) :
    (item : Item) → (item.records crate).map Record.key = item.keys
  | .module head info items => by
    rw [Item.records, Item.keys, List.map_cons, map_key_recordsOfAll crate]
    rfl
  | .struct head fields isTuple => map_key_structRecords ..
  | .enum head variants => map_key_enumRecords ..
  | .trait head safety items => map_key_traitRecords ..
  | .function _ _ | .constant _ _ _ | .macroRules _ _
  | .importing _ _ | .impl _ => by
    simp [Item.records, Item.keys, Record.key, Head.record, Head.key]

theorem map_key_recordsOfAll (crate : CrateId) :
    (items : List Item) →
      (recordsOfAll crate items).map Record.key = keysOfAll items
  | [] => rfl
  | item :: rest => by
    rw [recordsOfAll, keysOfAll, List.map_append, map_key_records crate item,
      map_key_recordsOfAll crate rest]

end

/-! ## Blocks -/

/-- The keys of the items of an `impl` block at a path. -/
def Attached.keys (attached : Attached) : List Key :=
  assocKeys AssocContent.implKind attached.target attached.block.items

theorem map_key_attachedRecords (crate : CrateId) (attached : Attached) :
    (attached.records crate).map Record.key = attached.keys := by
  simp [Attached.records, Attached.keys, assocKeys, Record.key,
    AssocItem.record]

theorem map_changeLast
    {α β : Type}
    (property : α → Bool)
    {change : α → α}
    {part : α → β}
    (keeps : ∀ value, part (change value) = part value)
    (values : List α) :
    (changeLast property change values).map part = values.map part := by
  induction values with
  | nil => rfl
  | cons first rest inductionStep =>
      rw [changeLast]
      split
      · rw [List.map_cons, List.map_cons, keeps]
      · rw [List.map_cons, List.map_cons, inductionStep]

theorem map_key_linkFrom (path : ItemPath) (records parts : List Record) :
    (linkFrom path records parts).map Record.key =
      records.map Record.key := by
  unfold linkFrom
  split
  · rfl
  · apply map_changeLast
    intro record
    rfl

/-- Linking types to the items of their blocks keeps all keys. -/
theorem map_key_foldl_linkFrom
    (crate : CrateId)
    (blocks : List Attached)
    (records : List Record) :
    (blocks.foldl (fun records attached =>
        linkFrom attached.target records (attached.records crate))
      records).map Record.key = records.map Record.key := by
  induction blocks generalizing records with
  | nil => rfl
  | cons attached blocks inductionStep =>
      rw [List.foldl_cons, inductionStep, map_key_linkFrom]

/-- The keys of the records of a tree and of blocks are those of the tree and
of the items of the blocks. -/
theorem map_key_flatten
    (crate : CrateId)
    (tree : CrateTree)
    (blocks : List Attached) :
    (flatten crate tree blocks).map Record.key =
      tree.root.keys ++ blocks.flatMap Attached.keys := by
  simp only [flatten, List.map_append, List.map_flatMap,
    map_key_foldl_linkFrom, map_key_records, map_key_attachedRecords]

/-- The keys of a crate are those of its tree and of the items of its kept
blocks. -/
theorem map_key_records_fst (crate : CrateId) (tree : CrateTree) :
    (records crate tree).1.map Record.key =
      tree.root.keys ++ (resolve tree).1.flatMap Attached.keys :=
  map_key_flatten crate tree (resolve tree).1

/-- A crate has a record with a property of its key exactly when its tree or
one of its kept blocks has such a key. -/
theorem exists_record_iff_key
    (crate : CrateId)
    (tree : CrateTree)
    (property : Key → Prop) :
    (∃ record ∈ (records crate tree).1, property record.key) ↔
      (∃ key ∈ tree.root.keys, property key) ∨
        ∃ attached ∈ (resolve tree).1, ∃ key ∈ attached.keys,
          property key := by
  have listed : (∃ record ∈ (records crate tree).1, property record.key) ↔
      ∃ key ∈ (records crate tree).1.map Record.key, property key := by
    simp
  rw [listed, map_key_records_fst]
  simp only [List.mem_append, or_and_right, exists_or, List.mem_flatMap]
  refine or_congr_right ⟨?_, ?_⟩
  · rintro ⟨key, ⟨attached, kept, member⟩, holds⟩
    exact ⟨attached, kept, key, member, holds⟩
  · rintro ⟨attached, kept, key, member, holds⟩
    exact ⟨key, ⟨attached, kept, member⟩, holds⟩

end Tree

end CrateShelf
