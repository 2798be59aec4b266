import CrateShelf.Proofs.Tree.Declared
import CrateShelf.Proofs.Tree.Index

/-!
# A crate with and without its hidden items

The same declarations are read twice, once leaving hidden items out.  What is
read then is what is read otherwise, thinned: items that stand at hidden
paths, and parts of others, are missing.

Main statement: a crate without its hidden items is the whole crate, thinned,
and each of its `impl` blocks is one of the whole crate, perhaps with fewer
items.
-/

namespace CrateShelf.Tree

open Docs (Note)
open Source (Declaration)

/-- A path is one of some paths or below one of them. -/
def IsUnder (tops : List ItemPath) (path : ItemPath) : Prop :=
  ∃ top ∈ tops, path.startsWith top = true

theorem IsUnder.of_startsWith
    {tops : List ItemPath}
    {path above : ItemPath}
    (starts : path.startsWith above = true)
    (under : IsUnder tops above) :
    IsUnder tops path := by
  obtain ⟨top, member, upper⟩ := under
  exact ⟨top, member, ItemPath.startsWith_trans starts upper⟩

/-- An item is a type or holds modules only under some paths. -/
structure StandsUnder (tops : List ItemPath) (item : Item) : Prop where
  typed : ∀ path, typePath? item = some path → IsUnder tops path
  modules : ∀ entry ∈ item.modules, IsUnder tops entry.1

/-- Some items are others without those that stand under hidden paths, and
with fewer parts. -/
inductive Thins (hidden : List ItemPath) : List Item → List Item → Prop where
  | nil : Thins hidden [] []
  | extra {item : Item} {fewer more : List Item}
      (under : StandsUnder hidden item)
      (others : Thins hidden fewer more) :
    Thins hidden fewer (item :: more)
  | leaf {item other : Item} {fewer more : List Item}
      (noModules : item.modules = [])
      (alsoNoModules : other.modules = [])
      (sameType : typePath? item = typePath? other)
      (keys : item.keys ⊆ other.keys)
      (others : Thins hidden fewer more) :
    Thins hidden (item :: fewer) (other :: more)
  | module {head other : Head} {info otherInfo : ModuleInfo}
      {items otherItems fewer more : List Item}
      (sameKey : head.key .module = other.key .module)
      (sameUses : info.uses = otherInfo.uses)
      (inside : Thins hidden items otherItems)
      (others : Thins hidden fewer more) :
    Thins hidden (.module head info items :: fewer)
      (.module other otherInfo otherItems :: more)

variable {hidden : List ItemPath} {fewer more : List Item}

theorem Thins.append
    {front otherFront : List Item}
    (first : Thins hidden front otherFront)
    (second : Thins hidden fewer more) :
    Thins hidden (front ++ fewer) (otherFront ++ more) := by
  induction first with
  | nil => exact second
  | extra under others inductionStep => exact .extra under inductionStep
  | leaf noModules alsoNoModules sameType keys others inductionStep =>
      exact .leaf noModules alsoNoModules sameType keys inductionStep
  | module sameKey sameUses inside others _ inductionStep =>
      exact .module sameKey sameUses inside inductionStep

/-- Items that stand under hidden paths are all left out. -/
theorem thins_of_standsUnder
    {items : List Item}
    (under : ∀ item ∈ items, StandsUnder hidden item) :
    Thins hidden [] items := by
  induction items with
  | nil => exact .nil
  | cons item items inductionStep =>
      rw [List.forall_mem_cons] at under
      exact .extra under.1 (inductionStep under.2)

/-- Thinned items have no new keys. -/
theorem Thins.keys_subset (thins : Thins hidden fewer more) :
    keysOfAll fewer ⊆ keysOfAll more := by
  induction thins with
  | nil => exact List.Subset.refl _
  | extra under others inductionStep =>
      rw [keysOfAll]
      exact List.Subset.trans inductionStep (List.subset_append_right _ _)
  | leaf noModules alsoNoModules sameType keys others inductionStep =>
      rw [keysOfAll, keysOfAll]
      exact List.append_subset.2
        ⟨List.subset_append_of_subset_left _ keys,
          List.subset_append_of_subset_right _ inductionStep⟩
  | module sameKey sameUses inside others insideStep inductionStep =>
      rw [keysOfAll, keysOfAll, Item.keys, Item.keys, sameKey]
      exact List.append_subset.2
        ⟨List.subset_append_of_subset_left _
            (List.cons_subset_cons _ insideStep),
          List.subset_append_of_subset_right _ inductionStep⟩

/-- Thinned items have the same types but for those under hidden paths. -/
theorem Thins.exists_typePath?_iff
    (thins : Thins hidden fewer more)
    {path : ItemPath}
    (clear : ¬ IsUnder hidden path) :
    (∃ item ∈ fewer, typePath? item = some path) ↔
      ∃ item ∈ more, typePath? item = some path := by
  induction thins with
  | nil => exact Iff.rfl
  | extra under others inductionStep =>
      rw [List.exists_mem_cons_iff, inductionStep]
      exact (or_iff_right fun typed => clear (under.typed path typed)).symm
  | leaf noModules alsoNoModules sameType keys others inductionStep =>
      rw [List.exists_mem_cons_iff, List.exists_mem_cons_iff, sameType,
        inductionStep]
  | module sameKey sameUses inside others _ inductionStep =>
      rw [List.exists_mem_cons_iff, List.exists_mem_cons_iff, inductionStep]
      exact Iff.rfl

/-- What is found of two crates at a path: nothing, or modules with the same
imports of which one is the other, thinned. -/
inductive Agrees (hidden : List ItemPath) :
    Option (UseTable × List Item) → Option (UseTable × List Item) →
      Prop where
  | absent : Agrees hidden none none
  | present {uses : UseTable} {fewer more : List Item}
      (thins : Thins hidden fewer more) :
    Agrees hidden (some (uses, fewer)) (some (uses, more))

theorem Agrees.or
    {first second other another : Option (UseTable × List Item)}
    (agrees : Agrees hidden first second)
    (alsoAgrees : Agrees hidden other another) :
    Agrees hidden (first.or other) (second.or another) := by
  cases agrees with
  | absent => exact alsoAgrees
  | present thins => exact .present thins

theorem Agrees.map_fst_eq
    {first second : Option (UseTable × List Item)}
    (agrees : Agrees hidden first second) :
    first.map (·.1) = second.map (·.1) := by
  cases agrees with
  | absent => rfl
  | present thins => rfl

/-- Modules that agree have the same types but for those under hidden
paths. -/
theorem Agrees.exists_typePath?_iff
    {first second : Option (UseTable × List Item)}
    (agrees : Agrees hidden first second)
    {path : ItemPath}
    (clear : ¬ IsUnder hidden path) :
    (∃ uses items, first = some (uses, items) ∧
        ∃ item ∈ items, typePath? item = some path) ↔
      ∃ uses items, second = some (uses, items) ∧
        ∃ item ∈ items, typePath? item = some path := by
  cases agrees with
  | absent => exact Iff.rfl
  | present thins =>
      have types := thins.exists_typePath?_iff clear
      constructor
      · rintro ⟨_, _, ⟨⟩, typed⟩
        exact ⟨_, _, rfl, types.1 typed⟩
      · rintro ⟨_, _, ⟨⟩, typed⟩
        exact ⟨_, _, rfl, types.2 typed⟩

theorem lastAt?_eq_none
    {path : ItemPath}
    {modules : List (ItemPath × UseTable × List Item)}
    (absent : ∀ entry ∈ modules, entry.1 ≠ path) :
    lastAt? path modules = none := by
  cases last : lastAt? path modules with
  | none => rfl
  | some content => exact absurd rfl (absent _ (mem_of_lastAt? last))

/-- Thinned items have the same modules but for those under hidden paths. -/
theorem Thins.agrees
    (thins : Thins hidden fewer more)
    {path : ItemPath}
    (clear : ¬ IsUnder hidden path) :
    Agrees hidden (lastAt? path (modulesOfAll fewer))
      (lastAt? path (modulesOfAll more)) := by
  induction thins with
  | nil => exact .absent
  | extra under others inductionStep =>
      have absent : lastAt? path (Item.modules _) = none :=
        lastAt?_eq_none fun entry member same =>
          clear (same ▸ under.modules entry member)
      rw [modulesOfAll, lastAt?_append, absent, Option.or_none]
      exact inductionStep
  | leaf noModules alsoNoModules sameType keys others inductionStep =>
      rw [modulesOfAll, modulesOfAll, noModules, alsoNoModules]
      exact inductionStep
  | module sameKey sameUses inside others insideStep inductionStep =>
      have samePath := congrArg Key.path sameKey
      rw [modulesOfAll, modulesOfAll, Item.modules, Item.modules,
        lastAt?_append, lastAt?_append, lastAt?, lastAt?, sameUses]
      refine inductionStep.or (insideStep.or ?_)
      dsimp only [Head.key] at samePath
      rw [samePath]
      split
      · exact .present inside
      · exact .absent

/-! ## Reading twice -/

variable
    {files : FileTree}
    {root : ItemPath}
    {place : Place}
    {notes : List Note}
    {declaration : Declaration}

theorem fieldsOf_sublist (list : Source.FieldList) :
    (fieldsOf true list).1.Sublist (fieldsOf false list).1 := by
  cases list with
  | unit => exact List.Sublist.refl _
  | named parts | ordered parts => exact (shownAmong_sublist _).map _

theorem variantsOf_sublist
    (parts : List (Source.Noted Source.VariantHead)) :
    (variantsOf true parts).Sublist (variantsOf false parts) :=
  (shownAmong_sublist _).map _

theorem assocItemsOf_sublist
    (kind : FnKind)
    (noted : List (List Note × Declaration)) :
    (assocItemsOf true kind noted).Sublist (assocItemsOf false kind noted) :=
  (shownAmong_sublist _).filterMap _

theorem modules_of_mem_plainItemsOf
    {skipsHidden : Bool}
    {path : ItemPath}
    {docs : List WideText}
    {item : Item}
    (member : item ∈ plainItemsOf skipsHidden path docs declaration) :
    item.modules = [] ∧
      ∀ other, typePath? item = some other → other = path := by
  cases declaration with
  | struct | enum | function | constant | trait | macroRules =>
      rw [plainItemsOf, List.mem_singleton] at member
      subst member
      simp [Item.modules, typePath?, eq_comm]
  | _ => cases member

/-- Leaving out hidden parts thins an item. -/
theorem thins_plainItemsOf
    (hidden : List ItemPath)
    (path : ItemPath)
    (docs : List WideText)
    (declaration : Declaration) :
    Thins hidden (plainItemsOf true path docs declaration)
      (plainItemsOf false path docs declaration) := by
  have leaf : ∀ {item other : Item},
      item.modules = [] → other.modules = [] →
        typePath? item = typePath? other → item.keys ⊆ other.keys →
          Thins hidden [item] [other] :=
    fun noModules alsoNoModules sameType keys =>
      .leaf noModules alsoNoModules sameType keys .nil
  cases declaration with
  | struct name visibility list =>
      refine leaf (by simp [Item.modules]) (by simp [Item.modules]) rfl ?_
      rw [Item.keys, Item.keys]
      exact List.cons_subset_cons _
        ((fieldsOf_sublist list).filterMap _).subset
  | enum name visibility parts =>
      refine leaf (by simp [Item.modules]) (by simp [Item.modules]) rfl ?_
      rw [Item.keys, Item.keys]
      exact List.cons_subset_cons _ ((variantsOf_sublist parts).map _).subset
  | trait name visibility isUnsafe body =>
      refine leaf (by simp [Item.modules]) (by simp [Item.modules]) rfl ?_
      rw [Item.keys, Item.keys]
      exact List.cons_subset_cons _
        (assocKeys_subset _ _ (assocItemsOf_sublist _ _).subset)
  | function | constant | macroRules =>
      exact leaf (by simp [Item.modules]) (by simp [Item.modules]) rfl
        (List.Subset.refl _)
  | _ => exact .nil

/-- Foreign functions are thinned by leaving out the hidden ones. -/
theorem thins_foreignItemsOf
    (hidden : List ItemPath)
    (owner : ItemPath)
    (abi : Abi)
    (functions : List (List Note × Source.FunctionHead)) :
    Thins hidden (foreignItemsOf true owner abi functions)
      (foreignItemsOf false owner abi functions) := by
  induction functions with
  | nil => exact .nil
  | cons function functions inductionStep =>
      obtain ⟨notes, head⟩ := function
      have all : isShown false notes = true := rfl
      rw [foreignItemsOf, foreignItemsOf, shownAmong_cons, shownAmong_cons,
        all, if_pos rfl]
      split
      · exact .leaf (by simp [Item.modules]) (by simp [Item.modules]) rfl
          (List.Subset.refl _) inductionStep
      · exact .extra ⟨by simp [typePath?], by simp [Item.modules]⟩
          inductionStep

/-- A module at a hidden path stands there with all that is in it. -/
theorem standsUnder_module
    {head : Head}
    {info : ModuleInfo}
    {items : List Item}
    (member : head.path ∈ hidden)
    (below : ∀ entry ∈ modulesOfAll items,
      entry.1.startsWith head.path = true) :
    StandsUnder hidden (.module head info items) where
  typed path typed := by cases typed
  modules entry listed := by
    rw [Item.modules, List.mem_cons] at listed
    rcases listed with rfl | listed
    · exact ⟨head.path, member, ItemPath.startsWith_refl _⟩
    · exact ⟨head.path, member, below entry listed⟩

/-- A block is another one, perhaps with fewer items. -/
structure Resembles (block other : Impl) : Prop where
  modulePath_eq : block.modulePath = other.modulePath
  targetText_eq : block.targetText = other.targetText
  items_subset : block.items ⊆ other.items

theorem isMute_of_named
    {name : String}
    (named : nameOf? declaration = some name) :
    isMute declaration = false := by
  cases declaration with
  | note | macroCall | statement => cases named
  | _ => rfl

variable [Depths]

/-- All that a declaration makes may be left out if it is hidden. -/
theorem Contributes.thins_of_hidden
    {name : String}
    {whole : Share}
    (named : nameOf? declaration = some name)
    (other : Contributes files false place notes declaration whole)
    (known : place.path.push name ∈ hidden) :
    Thins hidden [] whole.items := by
  cases other with
  | importing | hiddenImpl | impl | foreign => cases named
  | mute _ mute =>
      rw [isMute_of_named named] at mute
      cases mute
  | hidden _ _ _ hides => cases hides
  | unopened _ visibility body docs =>
      cases named
      exact .extra (standsUnder_module known (by simp [modulesOfAll])) .nil
  | plain _ _ alsoNamed =>
      rw [named] at alsoNamed
      cases alsoNamed
      refine thins_of_standsUnder fun item member => ?_
      obtain ⟨noModules, typed⟩ := modules_of_mem_plainItemsOf member
      refine ⟨fun path isType => ?_, by simp [noModules]⟩
      rw [typed path isType]
      exact ⟨_, known, ItemPath.startsWith_refl _⟩

/-- Leaving out hidden parts thins what a declaration makes. -/
theorem Contributes.thins
    {share whole : Share}
    (contributes : Contributes files true place notes declaration share)
    (other : Contributes files false place notes declaration whole)
    (known : share.hidden ⊆ hidden) :
    Thins hidden share.items whole.items ∧
      ∀ block ∈ share.impls, ∃ like ∈ whole.impls, Resembles block like := by
  cases contributes with
  | importing text visibility tree =>
      cases other with
      | importing =>
          exact ⟨.leaf (by simp [Item.modules]) (by simp [Item.modules]) rfl
            (List.Subset.refl _) .nil, by simp⟩
      | mute _ mute => cases mute
      | hidden _ _ named | plain _ _ named => cases named
  | hiddenImpl head body hides =>
      cases other with
      | hiddenImpl => exact ⟨.nil, by simp⟩
      | impl =>
          exact ⟨.extra ⟨by simp [typePath?], by simp [Item.modules]⟩ .nil,
            by simp⟩
      | mute _ mute => cases mute
      | hidden _ _ named | plain _ _ named => cases named
  | impl head body order shown =>
      cases other with
      | hiddenImpl _ _ hides => cases hides
      | impl _ _ otherOrder =>
          refine ⟨.leaf (by simp [Item.modules]) (by simp [Item.modules]) rfl
            (List.Subset.refl _) .nil, ?_⟩
          rintro block member
          rw [List.mem_singleton] at member
          subst member
          exact ⟨_, List.mem_singleton_self _, rfl, rfl,
            (assocItemsOf_sublist _ _).subset⟩
      | mute _ mute => cases mute
      | hidden _ _ named | plain _ _ named => cases named
  | foreign mark body =>
      cases other with
      | foreign =>
          exact ⟨thins_foreignItemsOf hidden place.path _ _, by simp⟩
      | mute _ mute => cases mute
      | hidden _ _ named | plain _ _ named => cases named
  | mute declaration mute =>
      cases other with
      | importing | hiddenImpl | impl | foreign | unopened => cases mute
      | mute => exact ⟨.nil, by simp⟩
      | hidden _ _ named | plain _ _ named =>
          rw [isMute_of_named named] at mute
          cases mute
  | hidden declaration name named hides =>
      exact ⟨other.thins_of_hidden named (known List.mem_cons_self), by simp⟩
  | unopened name visibility body docs shown closed =>
      cases other with
      | mute _ mute => cases mute
      | hidden _ _ _ hides => cases hides
      | unopened =>
          exact ⟨.module rfl rfl .nil .nil, by simp⟩
      | plain _ _ _ noModule => cases noModule
  | plain declaration name named noModule shown =>
      cases other with
      | importing | hiddenImpl | impl | foreign => cases named
      | mute _ mute =>
          rw [isMute_of_named named] at mute
          cases mute
      | hidden _ _ _ hides => cases hides
      | unopened => cases noModule
      | plain _ _ alsoNamed =>
          rw [named] at alsoNamed
          cases alsoNamed
          exact ⟨thins_plainItemsOf hidden _ _ _, by simp⟩

/-- The modules found in declarations stand below their place. -/
theorem Reads.startsWith_of_mem_modules
    {skipsHidden : Bool}
    {noted : List (List Note × Declaration)}
    {uses : UseTable}
    {outline : Outline}
    (reads : Reads files root skipsHidden place noted uses outline)
    {entry : ItemPath × UseTable × List Item}
    (member : entry ∈ modulesOfAll outline.items) :
    entry.1.startsWith place.path = true := by
  obtain ⟨⟨key, among, same⟩, _⟩ :=
    keys_of_mem_modulesOfAll outline.items entry member
  rw [← same]
  exact (reads.reaches among).isBelow.1

omit [Depths] in
theorem exists_mem_append
    {first second front back : List Impl}
    (like : ∀ block ∈ first, ∃ other ∈ front, Resembles block other)
    (alsoLike : ∀ block ∈ second, ∃ other ∈ back, Resembles block other) :
    ∀ block ∈ first ++ second, ∃ other ∈ front ++ back,
      Resembles block other := by
  intro block member
  rcases List.mem_append.1 member with member | member
  · obtain ⟨other, listed, resembles⟩ := like block member
    exact ⟨other, List.mem_append_left _ listed, resembles⟩
  · obtain ⟨other, listed, resembles⟩ := alsoLike block member
    exact ⟨other, List.mem_append_right _ listed, resembles⟩

/-- The types among items stand right below a path. -/
def HoldsTypes (owner : ItemPath) (items : List Item) : Prop :=
  ∀ item ∈ items, ∀ path, typePath? item = some path →
    path.parent? = some owner

omit [Depths] in
theorem mem_modulesOfAll
    {entry : ItemPath × UseTable × List Item}
    {items : List Item} :
    entry ∈ modulesOfAll items ↔ ∃ item ∈ items, entry ∈ item.modules := by
  induction items with
  | nil => simp [modulesOfAll]
  | cons item items inductionStep =>
      simp [modulesOfAll, inductionStep]

theorem Contributes.holdsTypes
    {skipsHidden : Bool}
    {share : Share}
    (contributes : Contributes files skipsHidden place notes declaration
      share) :
    HoldsTypes place.path share.items ∧
      ∀ entry ∈ modulesOfAll share.items, HoldsTypes entry.1 entry.2.2 := by
  cases contributes with
  | importing | hiddenImpl | impl | mute | hidden | unopened =>
      simp [HoldsTypes, modulesOfAll, Item.modules, typePath?]
  | foreign mark body =>
      constructor
      · intro item member path typed
        obtain ⟨part, _, rfl⟩ := List.mem_map.1 member
        cases typed
      · intro entry listed
        obtain ⟨item, member, among⟩ := mem_modulesOfAll.1 listed
        obtain ⟨part, _, rfl⟩ := List.mem_map.1 member
        simp [Item.modules] at among
  | plain declaration name named noModule shown =>
      constructor
      · intro item member path typed
        rw [(modules_of_mem_plainItemsOf member).2 path typed]
        exact ItemPath.parent?_push _ _
      · intro entry listed
        obtain ⟨item, member, among⟩ := mem_modulesOfAll.1 listed
        rw [(modules_of_mem_plainItemsOf member).1] at among
        cases among

omit [Depths] in
theorem HoldsTypes.append
    {owner : ItemPath}
    {items others : List Item}
    (first : HoldsTypes owner items)
    (second : HoldsTypes owner others) :
    HoldsTypes owner (items ++ others) := by
  intro item member
  rcases List.mem_append.1 member with member | member
  · exact first item member
  · exact second item member

omit [Depths] in
theorem modulesOfAll_append (items others : List Item) :
    modulesOfAll (items ++ others) =
      modulesOfAll items ++ modulesOfAll others := by
  induction items with
  | nil => rfl
  | cons item items inductionStep =>
      rw [List.cons_append, modulesOfAll, modulesOfAll, inductionStep,
        List.append_assoc]

/-- The types found in declarations stand right below their modules. -/
theorem Reads.holdsTypes
    {skipsHidden : Bool}
    {noted : List (List Note × Declaration)}
    {uses : UseTable}
    {outline : Outline}
    (reads : Reads files root skipsHidden place noted uses outline) :
    HoldsTypes place.path outline.items ∧
      ∀ entry ∈ modulesOfAll outline.items,
        HoldsTypes entry.1 entry.2.2 := by
  induction reads with
  | nil place uses => simp [HoldsTypes, modulesOfAll]
  | flat first others inductionStep =>
      refine ⟨first.holdsTypes.1.append inductionStep.1, ?_⟩
      rw [Outline.add, modulesOfAll_append]
      exact List.forall_mem_append.2
        ⟨first.holdsTypes.2, inductionStep.2⟩
  | module file? docs shown opens within others insideStep inductionStep =>
      constructor
      · refine HoldsTypes.append ?_ inductionStep.1
        simp [HoldsTypes, typePath?]
      · rw [Outline.add, modulesOfAll_append]
        refine List.forall_mem_append.2 ⟨?_, inductionStep.2⟩
        rw [modulesOfAll, modulesOfAll, Item.modules, List.append_nil,
          List.forall_mem_cons]
        rw [path_of_opened? opens] at insideStep
        exact insideStep

/-- The types of a crate stand right below their modules. -/
theorem IsRead.holdsTypes
    {crate : CrateId}
    {file? : Option DiskPath}
    {declarations : List Declaration}
    {skipsHidden : Bool}
    {tree : CrateTree}
    {outline : Outline}
    (read : IsRead files crate skipsHidden file? declarations tree outline)
    {entry : ItemPath × UseTable × List Item}
    (member : entry ∈ tree.root.modules) :
    HoldsTypes entry.1 entry.2.2 := by
  obtain ⟨rootTypes, otherTypes⟩ := read.reads.holdsTypes
  rw [CrateTree.root, Item.modules, List.mem_cons, read.items_eq,
    read.path_eq] at member
  rcases member with rfl | listed
  · exact rootTypes
  · exact otherTypes entry listed

/-- Reading declarations without hidden items thins what is read. -/
theorem Reads.thins
    {noted : List (List Note × Declaration)}
    {uses : UseTable}
    {outline whole : Outline}
    (reads : Reads files root true place noted uses outline)
    (other : Reads files root false place noted uses whole)
    (known : outline.hidden ⊆ hidden) :
    Thins hidden outline.items whole.items ∧
      outline.uses = whole.uses ∧
      ∀ block ∈ outline.impls, ∃ like ∈ whole.impls,
        Resembles block like := by
  induction reads generalizing whole with
  | nil place uses =>
      cases other with
      | nil => exact ⟨.nil, rfl, by simp⟩
  | flat first others inductionStep =>
      obtain ⟨firstKnown, othersKnown⟩ := List.append_subset.1 known
      cases other with
      | flat second rest =>
          obtain ⟨thins, like⟩ := first.thins second firstKnown
          obtain ⟨othersThin, sameUses, othersLike⟩ :=
            inductionStep rest othersKnown
          exact ⟨thins.append othersThin, sameUses,
            exists_mem_append like othersLike⟩
      | module file? docs shown opens within rest =>
          obtain ⟨othersThin, sameUses, othersLike⟩ :=
            inductionStep rest othersKnown
          cases first with
          | mute _ mute => cases mute
          | unopened _ _ _ _ _ closed =>
              rw [opens] at closed
              cases closed
          | plain _ _ _ noModule => cases noModule
          | hidden _ _ named hides =>
              -- The module is left out here and opened in the whole crate.
              cases named
              have below : ∀ entry ∈ modulesOfAll _, _ := fun entry member =>
                within.startsWith_of_mem_modules member
              rw [path_of_opened? opens] at below
              exact ⟨.extra (standsUnder_module
                (firstKnown List.mem_cons_self) below) othersThin,
                sameUses,
                exists_mem_append (List.forall_mem_nil _) othersLike⟩
  | module file? docs shown opens within others insideStep inductionStep =>
      obtain ⟨insideKnown, othersKnown⟩ := List.append_subset.1 known
      cases other with
      | flat second rest =>
          cases second with
          | mute _ mute => cases mute
          | hidden _ _ _ hides => cases hides
          | unopened _ _ _ _ _ closed =>
              rw [opens] at closed
              cases closed
          | plain _ _ _ noModule => cases noModule
      | module otherFile? otherDocs _ alsoOpens otherWithin rest =>
          rw [opens] at alsoOpens
          cases alsoOpens
          obtain ⟨insideThins, insideUses, insideLike⟩ :=
            insideStep otherWithin insideKnown
          obtain ⟨othersThin, sameUses, othersLike⟩ :=
            inductionStep rest othersKnown
          exact ⟨.module rfl insideUses insideThins othersThin, sameUses,
            exists_mem_append insideLike othersLike⟩

end CrateShelf.Tree
