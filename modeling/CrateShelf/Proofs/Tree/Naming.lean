import CrateShelf.Proofs.ItemPath
import CrateShelf.Proofs.Tree.Inside

/-!
# Names in a crate

What the segments of the paths in a crate are made of: the names of the
modules around a declaration, its own name, those of its fields, variants and
items, and, for macros that are used in a trait or a block, the text by which
the macro is called, which may be a whole path.

Main statement: whatever the tree of a crate documents has such a name at the
end of its path, behind the path of what is declared around it.
-/

namespace CrateShelf

/-- Whether a text can be a segment of a sound path. -/
def ItemPath.IsPlainName (name : String) : Prop :=
  name ≠ "" ∧ ':' ∉ name.toList

instance (name : String) : Decidable (ItemPath.IsPlainName name) :=
  inferInstanceAs (Decidable (_ ∧ _))

theorem ItemPath.isSound_push_iff
    {path : ItemPath}
    {name : String} :
    (path.push name).IsSound ↔ path.IsSound ∧ IsPlainName name := by
  unfold IsSound
  rw [segments_push]
  constructor
  · intro sound
    constructor
    · intro segment member
      exact sound segment (List.mem_append_left _ member)
    · exact sound name (List.mem_append_right _ (List.mem_singleton_self _))
  · rintro ⟨sound, plain⟩ segment member
    rcases List.mem_append.1 member with above | last
    · exact sound segment above
    · rw [List.mem_singleton.1 last]
      exact plain

namespace Tree

open Docs (Note)
open Source (Declaration)

/-! ## Names that are declared -/

/-- The name of the item of a trait or a block that is no use of a macro. -/
def properName? : Declaration → Option String
  | .function head => some head.name
  | .constant name _ _ _ | .typeBound name _ | .typeAlias name _ _ =>
    some name
  | _ => none

/-- The text by which a macro is used. -/
def macroName? : Declaration → Option String
  | .macroCall name _ => some name
  | _ => none

/-- The names of the fields, variants and items in a declaration. -/
def partNames : Declaration → List String
  | .struct _ _ (.named parts) | .struct _ _ (.ordered parts) =>
    (partsWithNotes [] parts).filterMap (·.2.name)
  | .enum _ _ parts => (partsWithNotes [] parts).map (·.2.name)
  | .trait _ _ _ body => (bodyWithNotes [] body).filterMap (properName? ·.2)
  | .impl _ body =>
    (bodyWithNotes [] (body.getD [])).filterMap (properName? ·.2)
  | .foreign _ body => (foreignFunctions body).map (·.2.name)
  | _ => []

/-- The names in a declaration and its own. -/
def namesOf (declaration : Declaration) : List String :=
  (nameOf? declaration).toList ++ partNames declaration

/-- The texts by which macros are used in the body of a trait or a block. -/
def macrosOf : Declaration → List String
  | .trait _ _ _ body => (bodyWithNotes [] body).filterMap (macroName? ·.2)
  | .impl _ body =>
    (bodyWithNotes [] (body.getD [])).filterMap (macroName? ·.2)
  | _ => []

variable
    {files : FileTree}
    {root : ItemPath}
    {skipsHidden : Bool}
    {place inner : Place}
    {noted : List (List Note × Declaration)}
    {first part : List Note × Declaration}
    {notes : List Note}
    {declaration : Declaration}
    {uses : UseTable}
    {share : Share}
    {outline : Outline}
    {key : Key}

theorem mem_namesOf_of_nameOf?
    {name : String}
    (named : nameOf? declaration = some name) :
    name ∈ namesOf declaration := by
  rw [namesOf, named]
  exact List.mem_cons_self

/-- The items of a trait or a block are named in its body. -/
theorem name_of_mem_assocItemsOf
    {kind : FnKind}
    {item : AssocItem}
    (member : item ∈ assocItemsOf skipsHidden kind noted) :
    item.name ∈ noted.filterMap (properName? ·.2) ∨
      (∃ text, item.content = .macroCall text) ∧
        item.name ∈ noted.filterMap (macroName? ·.2) := by
  rcases List.mem_filterMap.1 member with ⟨part, among, made⟩
  rcases mem_shownAmong.1 among with ⟨notes, listed, _, _⟩
  rcases part with ⟨remarks, declaration⟩
  cases declaration with
  | function head | constant name visibility typeText valueText
  | typeBound name boundText | typeAlias name visibility typeText =>
      cases made
      exact Or.inl (List.mem_filterMap.2 ⟨_, listed, rfl⟩)
  | macroCall nameText text =>
      cases made
      exact Or.inr ⟨⟨text, rfl⟩, List.mem_filterMap.2 ⟨_, listed, rfl⟩⟩
  | _ => cases made

/-- What a declaration at a place is documented by: the last name of a path
and what is around it. -/
inductive Documents (place : Place) (declaration : Declaration) :
    Key → Prop where
  | item (name : String) (kind : Kind)
      (named : name ∈ namesOf declaration) :
    Documents place declaration ⟨.text name, kind, place.path.push name⟩
  | part (outer name : String) (kind : Kind)
      (holder : nameOf? declaration = some outer)
      (named : name ∈ partNames declaration) :
    Documents place declaration
      ⟨.text name, kind, (place.path.push outer).push name⟩
  | macroUse (outer name : String)
      (holder : nameOf? declaration = some outer)
      (used : name ∈ macrosOf declaration) :
    Documents place declaration
      ⟨.text name, .traitItemMacro, (place.path.push outer).push name⟩

theorem documents_of_mem_fieldKeys
    {outer : String}
    {visibility : Visibility}
    {list : Source.FieldList}
    (member : key ∈
      fieldKeys (place.path.push outer) (fieldsOf skipsHidden list).1) :
    Documents place (.struct outer visibility list) key := by
  have named :
      ∀ parts, key ∈ fieldKeys (place.path.push outer)
          (fieldParts skipsHidden parts) →
        ∃ name ∈ (partsWithNotes [] parts).filterMap (·.2.name),
          key = ⟨.text name, .structField,
            (place.path.push outer).push name⟩ := by
    intro parts among
    rcases List.mem_filterMap.1 among with ⟨field, made, some⟩
    rcases List.mem_map.1 made with ⟨part, shown, rfl⟩
    rcases Option.map_eq_some_iff.1 some with ⟨name, named, rfl⟩
    rcases mem_shownAmong.1 shown with ⟨notes, listed, _, _⟩
    exact ⟨name, List.mem_filterMap.2 ⟨_, listed, named⟩, rfl⟩
  cases list with
  | unit => cases member
  | named parts | ordered parts =>
      rcases named parts member with ⟨name, among, rfl⟩
      exact .part _ _ _ rfl among

/-- What is made of a named declaration other than a module. -/
theorem documents_of_mem_plainItemsOf
    {name : String}
    {docs : List WideText}
    (named : nameOf? declaration = some name)
    (member : key ∈ keysOfAll
      (plainItemsOf skipsHidden (place.path.push name) docs declaration)) :
    Documents place declaration key := by
  have own := mem_namesOf_of_nameOf? named
  cases declaration with
  | struct _ visibility list =>
      cases named
      rw [plainItemsOf, keysOfAll, keysOfAll, List.append_nil, Item.keys,
        List.mem_cons] at member
      rcases member with rfl | member
      · exact .item _ _ own
      · exact documents_of_mem_fieldKeys member
  | enum _ visibility parts =>
      cases named
      rw [plainItemsOf, keysOfAll, keysOfAll, List.append_nil, Item.keys,
        List.mem_cons] at member
      rcases member with rfl | member
      · exact .item _ _ own
      · rcases List.mem_map.1 member with ⟨variant, made, rfl⟩
        rcases List.mem_map.1 made with ⟨part, shown, rfl⟩
        rcases mem_shownAmong.1 shown with ⟨notes, listed, _, _⟩
        exact .part _ _ _ rfl (List.mem_map.2 ⟨_, listed, rfl⟩)
  | trait _ visibility isUnsafe body =>
      cases named
      rw [plainItemsOf, keysOfAll, keysOfAll, List.append_nil, Item.keys,
        List.mem_cons] at member
      rcases member with rfl | member
      · exact .item _ _ own
      · rcases List.mem_map.1 member with ⟨item, made, rfl⟩
        rcases name_of_mem_assocItemsOf made with
          proper | ⟨⟨text, content⟩, used⟩
        · exact .part _ _ _ rfl proper
        · dsimp only
          rw [content]
          exact .macroUse _ _ rfl used
  | function head | constant _ visibility typeText valueText
  | macroRules _ =>
      cases named
      rw [plainItemsOf, keysOfAll, keysOfAll, List.append_nil, Item.keys,
        List.mem_singleton] at member
      rw [member]
      exact .item _ _ own
  | _ => cases member

variable [Depths]

theorem Contributes.documents
    (contributes : Contributes files skipsHidden place notes declaration
      share)
    (member : key ∈ keysOfAll share.items) :
    Documents place declaration key := by
  cases contributes with
  | importing | impl | hiddenImpl | mute | hidden => cases member
  | foreign mark body =>
      rcases mem_keysOfAll.1 member with ⟨item, made, member⟩
      rcases List.mem_map.1 made with ⟨part, shown, rfl⟩
      rcases mem_shownAmong.1 shown with ⟨notes, listed, _, _⟩
      rw [Item.keys, List.mem_singleton] at member
      rw [member]
      exact .item _ _ (List.mem_map.2 ⟨_, listed, rfl⟩)
  | unopened name visibility body docs shown closed =>
      rw [keysOfAll, keysOfAll, Item.keys, keysOfAll, List.append_nil,
        List.mem_singleton] at member
      rw [member]
      exact .item _ _ (mem_namesOf_of_nameOf? rfl)
  | plain declaration name named noModule shown =>
      exact documents_of_mem_plainItemsOf named member

/-- Whatever is documented in modules is documented by a declaration in one
of them. -/
theorem Reads.exists_documents
    (reads : Reads files root skipsHidden place noted uses outline)
    (member : key ∈ keysOfAll outline.items) :
    ∃ inner part,
      Includes files skipsHidden place noted inner part ∧
        Documents inner part.2 key := by
  induction reads with
  | nil place uses => cases member
  | flat contributes others inductionStep =>
      rw [Outline.add, keysOfAll_append, List.mem_append] at member
      rcases member with here | there
      · exact ⟨_, _, .here List.mem_cons_self, contributes.documents here⟩
      · rcases inductionStep there with ⟨inner, part, includes, documents⟩
        exact ⟨inner, part, includes.of_rest, documents⟩
  | module file? docs shown opens within others insideStep inductionStep =>
      rw [Outline.add, keysOfAll_append, List.mem_append, keysOfAll,
        keysOfAll, Item.keys, List.append_nil, List.mem_cons] at member
      rcases member with (rfl | deeper) | there
      · exact ⟨_, _, .here List.mem_cons_self,
          .item _ _ (mem_namesOf_of_nameOf? rfl)⟩
      · rcases insideStep deeper with ⟨inner, part, includes, documents⟩
        exact ⟨inner, part, .inside List.mem_cons_self shown opens includes,
          documents⟩
      · rcases inductionStep there with ⟨inner, part, includes, documents⟩
        exact ⟨inner, part, includes.of_rest, documents⟩

/-! ## Sound paths -/

section

variable
    (files : FileTree)
    (skipsHidden : Bool)
    (place : Place)
    (noted : List (List Note × Declaration))

/-- A name is that of something declared in a module. -/
def IsNamed (name : String) : Prop :=
  ∃ inner part,
    Includes files skipsHidden place noted inner part ∧
      name ∈ namesOf part.2

/-- A macro is used by a text in a trait or a block of a module. -/
def IsUsed (name : String) : Prop :=
  ∃ inner part,
    Includes files skipsHidden place noted inner part ∧
      name ∈ macrosOf part.2

end

/-- The path of a module is sound if that of its crate and all names are. -/
theorem Includes.isSound
    (includes : Includes files skipsHidden place noted inner part)
    (top : place.path.IsSound)
    (plain : ∀ name, IsNamed files skipsHidden place noted name →
      ItemPath.IsPlainName name) :
    inner.path.IsSound := by
  induction includes with
  | here member => exact top
  | inside member shown opens within inductionStep =>
      apply inductionStep
      · rw [path_of_opened? opens, ItemPath.isSound_push_iff]
        exact ⟨top, plain _
          ⟨_, _, .here member, mem_namesOf_of_nameOf? rfl⟩⟩
      · rintro name ⟨deep, part, includes, named⟩
        exact plain name ⟨deep, part, .inside member shown opens includes,
          named⟩

/-- Paths in a module are sound if all names are, but for macros that are used
in traits by texts that are no plain names. -/
theorem Reads.isSound_or_isUsed
    (reads : Reads files root skipsHidden place noted uses outline)
    (top : place.path.IsSound)
    (plain : ∀ name, IsNamed files skipsHidden place noted name →
      ItemPath.IsPlainName name)
    (member : key ∈ keysOfAll outline.items) :
    key.path.IsSound ∨
      key.kind = .traitItemMacro ∧
        ∃ name, key.name = .text name ∧
          IsUsed files skipsHidden place noted name ∧
            ¬ ItemPath.IsPlainName name := by
  rcases reads.exists_documents member with
    ⟨inner, part, includes, documents⟩
  have around := includes.isSound top plain
  have named :
      ∀ name ∈ namesOf part.2, ItemPath.IsPlainName name :=
    fun name member => plain name ⟨inner, part, includes, member⟩
  cases documents with
  | item name kind declared =>
      exact Or.inl (ItemPath.isSound_push_iff.2 ⟨around, named _ declared⟩)
  | part outer name kind holder declared =>
      have owner :=
        ItemPath.isSound_push_iff.2
          ⟨around, named _ (mem_namesOf_of_nameOf? holder)⟩
      exact Or.inl (ItemPath.isSound_push_iff.2
        ⟨owner, named _ (List.mem_append_right _ declared)⟩)
  | macroUse outer name holder used =>
      have owner :=
        ItemPath.isSound_push_iff.2
          ⟨around, named _ (mem_namesOf_of_nameOf? holder)⟩
      by_cases isPlain : ItemPath.IsPlainName name
      · exact Or.inl (ItemPath.isSound_push_iff.2 ⟨owner, isPlain⟩)
      · exact Or.inr ⟨rfl, name, rfl, ⟨inner, part, includes, used⟩, isPlain⟩

end Tree

end CrateShelf
