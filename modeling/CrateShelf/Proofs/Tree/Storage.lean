import CrateShelf.Proofs.Record.RoundTrip
import CrateShelf.Proofs.Tree.Naming

/-!
# Storing the records of a crate

Every record that a crate is documented by is well formed, and its links lead
to records of the crate.  So it is read from its stored form as it was, unless
it has none, as where a text of it is torn, or one of the paths cannot be read
from its written form.

Main statement: which records are read as they were, and what the others owe
it to that have a stored form: the text by which a macro is used in a trait or
a block, or the type of a block for which no type is found.
-/

namespace CrateShelf

/-! ## Links to records -/

namespace Links

open CrateShelf.Tree (Key)

variable
    {keys : List Key}
    {links : Links}
    {kind : Kind}
    {link : Link}
    {filed : Kind × List Link}

/-- Whether every link leads to one of the records that keys are those of. -/
def LeadTo (keys : List Key) (links : Links) : Prop :=
  ∀ filed ∈ links, ∀ link ∈ filed.2,
    (⟨link.name, filed.1, link.path⟩ : Key) ∈ keys

theorem leadTo_nil : LeadTo keys [] := by
  intro filed member
  cases member

theorem areNamed_nil : AreNamed [] where
  apart := List.nodup_nil
  named := by
    intro filed member
    cases member

/-- What is filed after one more link was added. -/
theorem of_mem_add
    (member : filed ∈ links.add kind link) :
    filed ∈ links ∨
      filed.1 = kind ∧
        ∀ other ∈ filed.2,
          other = link ∨ ∃ known, (kind, known) ∈ links ∧ other ∈ known := by
  induction links with
  | nil =>
      rw [add, List.mem_singleton] at member
      rw [member]
      exact Or.inr ⟨rfl, fun other among =>
        Or.inl (List.mem_singleton.1 among)⟩
  | cons first links inductionStep =>
      rcases first with ⟨other, known⟩
      rw [add] at member
      split at member
      · rename_i same
        subst same
        rcases List.mem_cons.1 member with rfl | later
        · refine Or.inr ⟨rfl, ?_⟩
          intro target among
          rcases List.mem_append.1 among with before | last
          · exact Or.inr ⟨known, List.mem_cons_self, before⟩
          · exact Or.inl (List.mem_singleton.1 last)
        · exact Or.inl (List.mem_cons_of_mem _ later)
      · rcases List.mem_cons.1 member with rfl | later
        · exact Or.inl List.mem_cons_self
        · rcases inductionStep later with before | ⟨same, targets⟩
          · exact Or.inl (List.mem_cons_of_mem _ before)
          · refine Or.inr ⟨same, ?_⟩
            intro target among
            rcases targets target among with new | ⟨filedBefore, inLinks, old⟩
            · exact Or.inl new
            · exact Or.inr ⟨filedBefore, List.mem_cons_of_mem _ inLinks, old⟩

theorem map_fst_add (links : Links) (kind : Kind) (link : Link) :
    (links.add kind link).map Prod.fst =
      if kind ∈ links.map Prod.fst then links.map Prod.fst
      else links.map Prod.fst ++ [kind] := by
  induction links with
  | nil => rfl
  | cons first links inductionStep =>
      rcases first with ⟨other, known⟩
      rw [add]
      by_cases same : other = kind
      · simp [same]
      · have different : ¬ kind = other := fun equal => same equal.symm
        rw [if_neg same, List.map_cons, inductionStep, List.map_cons]
        by_cases among : kind ∈ links.map Prod.fst
        · rw [if_pos among, if_pos (List.mem_cons_of_mem _ among)]
        · have absent : kind ∉ other :: links.map Prod.fst := by
            rw [List.mem_cons, not_or]
            exact ⟨different, among⟩
          rw [if_neg among, if_neg absent, List.cons_append]

theorem AreNamed.add
    (named : AreNamed links)
    (text : link.name.isText = true) :
    AreNamed (links.add kind link) := by
  constructor
  · rw [map_fst_add]
    split
    · exact named.apart
    · rename_i new
      rw [List.nodup_append]
      refine ⟨named.apart, List.nodup_singleton kind, ?_⟩
      rintro other among _ last rfl
      rw [List.mem_singleton.1 last] at among
      exact new among
  · intro filed member other among
    rcases of_mem_add member with before | ⟨_, targets⟩
    · exact named.named filed before other among
    · rcases targets other among with rfl | ⟨known, inLinks, old⟩
      · exact text
      · exact named.named _ inLinks other old

theorem LeadTo.add
    (lead : LeadTo keys links)
    (known : (⟨link.name, kind, link.path⟩ : Key) ∈ keys) :
    LeadTo keys (links.add kind link) := by
  intro filed member other among
  rcases of_mem_add member with before | ⟨rfl, targets⟩
  · exact lead filed before other among
  · rcases targets other among with rfl | ⟨_, inLinks, old⟩
    · exact known
    · exact lead _ inLinks other old

end Links

namespace Tree

open Docs (Note)
open Source (Declaration)

/-! ## Records of items -/

/-- Whether a record of a crate is well formed and its links lead to records
with some keys. -/
structure IsStorable (crate : CrateId) (keys : List Key)
    (record : Record) : Prop where
  owned : record.crate = crate
  formed : record.IsFormed
  linked : Links.LeadTo keys record.links

variable
    {crate : CrateId}
    {keys : List Key}
    {head : Head}
    {kind : Kind}
    {payload : Payload}
    {links : Links}
    {parts : List Record}

theorem isText_of_mem_docs
    {docs : List WideText}
    {piece : Label}
    (member : piece ∈ docs.map .ofWide) :
    piece.isText = true := by
  rcases List.mem_map.1 member with ⟨text, _, rfl⟩
  cases text <;> rfl

theorem IsStorable.of_head
    (sound : crate.IsSound)
    (fits : payload.fits kind = true)
    (named : Links.AreNamed links)
    (lead : Links.LeadTo keys links) :
    IsStorable crate keys (head.record crate kind payload links) where
  owned := rfl
  formed := {
    name := rfl
    crate := sound
    docs := fun _ => isText_of_mem_docs
    payload := fits
    links := named }
  linked := lead

theorem IsStorable.of_head_of_nil
    (sound : crate.IsSound)
    (fits : payload.fits kind = true) :
    IsStorable crate keys (head.record crate kind payload []) :=
  .of_head sound fits Links.areNamed_nil Links.leadTo_nil

/-- A record without links. -/
theorem isStorable_of_links_eq_nil
    {record : Record}
    (sound : crate.IsSound)
    (owned : record.crate = crate)
    (name : record.name.isText = true)
    (docs : ∃ texts : List WideText, record.docs = texts.map .ofWide)
    (fits : record.payload.fits record.kind = true)
    (none : record.links = []) :
    IsStorable crate keys record := by
  rcases docs with ⟨texts, docs⟩
  constructor
  · exact owned
  · constructor
    · exact name
    · rw [owned]
      exact sound
    · rw [docs]
      exact fun _ => isText_of_mem_docs
    · exact fits
    · rw [none]
      exact Links.areNamed_nil
  · rw [none]
    exact Links.leadTo_nil

/-- Links of one kind to records. -/
theorem links_filed
    (named : ∀ part ∈ parts, part.name.isText = true ∧ part.kind = kind)
    (among : parts.map Record.key ⊆ keys) :
    Links.AreNamed (filed kind (parts.map linkTo)) ∧
      Links.LeadTo keys (filed kind (parts.map linkTo)) := by
  unfold filed
  split
  · exact ⟨Links.areNamed_nil, Links.leadTo_nil⟩
  · constructor
    · constructor
      · exact List.nodup_singleton kind
      · intro filed member link inFiled
        rw [List.mem_singleton.1 member] at inFiled
        rcases List.mem_map.1 inFiled with ⟨part, isPart, rfl⟩
        exact (named part isPart).1
    · intro filed member link inFiled
      rw [List.mem_singleton.1 member] at inFiled ⊢
      rcases List.mem_map.1 inFiled with ⟨part, isPart, rfl⟩
      rw [← (named part isPart).2]
      exact among (List.mem_map_of_mem isPart)

/-- Links to records that are added one by one. -/
theorem links_foldl_add
    (named : Links.AreNamed links)
    (lead : Links.LeadTo keys links)
    (texts : ∀ part ∈ parts, part.name.isText = true)
    (among : parts.map Record.key ⊆ keys) :
    Links.AreNamed (parts.foldl
        (fun links part => Links.add links part.kind (linkTo part)) links) ∧
      Links.LeadTo keys (parts.foldl
        (fun links part => Links.add links part.kind (linkTo part))
        links) := by
  induction parts generalizing links with
  | nil => exact ⟨named, lead⟩
  | cons part parts inductionStep =>
      rw [List.map_cons, List.cons_subset] at among
      rw [List.forall_mem_cons] at texts
      exact inductionStep (named.add texts.1) (lead.add among.1) texts.2
        among.2

theorem isStorable_of_mem_structRecords
    {fields : List Field}
    {isTuple : Bool}
    (sound : crate.IsSound)
    (among : (structRecords crate head fields isTuple).map Record.key ⊆ keys) :
    ∀ record ∈ structRecords crate head fields isTuple,
      IsStorable crate keys record := by
  have made :
      ∀ part ∈ fields.filterMap (Field.record? crate head.path),
        ∃ (field : Field) (name : String),
          part = {
            name, crate, kind := .structField
            path := head.path.push name
            visibility := field.visibility
            docs := field.docs.map .ofWide
            payload := .field field.data } := by
    intro part member
    rcases List.mem_filterMap.1 member with ⟨field, _, made⟩
    rcases Option.map_eq_some_iff.1 made with ⟨name, _, rfl⟩
    exact ⟨field, name, rfl⟩
  rw [structRecords, List.map_cons, List.cons_subset] at among
  have linked :=
    links_filed
      (fun part member => by
        rcases made part member with ⟨field, name, rfl⟩
        exact ⟨rfl, rfl⟩)
      among.2
  rw [structRecords, List.forall_mem_cons]
  refine ⟨.of_head sound rfl linked.1 linked.2, ?_⟩
  intro part member
  rcases made part member with ⟨field, name, rfl⟩
  exact isStorable_of_links_eq_nil sound rfl rfl ⟨_, rfl⟩ rfl rfl

theorem isStorable_of_mem_enumRecords
    {variants : List Variant}
    (sound : crate.IsSound)
    (among : (enumRecords crate head variants).map Record.key ⊆ keys) :
    ∀ record ∈ enumRecords crate head variants,
      IsStorable crate keys record := by
  rw [enumRecords, List.map_cons, List.cons_subset] at among
  have linked :=
    links_filed
      (fun part member => by
        rcases List.mem_map.1 member with ⟨variant, _, rfl⟩
        exact ⟨rfl, rfl⟩)
      among.2
  rw [enumRecords, List.forall_mem_cons]
  refine ⟨.of_head sound rfl linked.1 linked.2, ?_⟩
  intro part member
  rcases List.mem_map.1 member with ⟨variant, _, rfl⟩
  exact isStorable_of_links_eq_nil sound rfl rfl ⟨_, rfl⟩ rfl rfl

theorem fits_traitKind (content : AssocContent) :
    content.payload.fits content.traitKind = true := by
  cases content <;> rfl

theorem fits_implKind (content : AssocContent) :
    content.payload.fits content.implKind = true := by
  cases content <;> rfl

theorem isStorable_of_mem_traitRecords
    {safety : Safety}
    {items : List AssocItem}
    (sound : crate.IsSound)
    (among : (traitRecords crate head safety items).map Record.key ⊆ keys) :
    ∀ record ∈ traitRecords crate head safety items,
      IsStorable crate keys record := by
  rw [traitRecords, List.map_cons, List.cons_subset] at among
  have linked :=
    links_foldl_add Links.areNamed_nil Links.leadTo_nil
      (fun part member => by
        rcases List.mem_map.1 member with ⟨item, _, rfl⟩
        rfl)
      among.2
  rw [traitRecords, List.forall_mem_cons]
  refine ⟨.of_head sound rfl linked.1 linked.2, ?_⟩
  intro part member
  rcases List.mem_map.1 member with ⟨item, _, rfl⟩
  exact isStorable_of_links_eq_nil sound rfl rfl ⟨_, rfl⟩
    (fits_traitKind item.content) rfl

theorem key_mem_of_linked?
    {item : Item}
    (linked : item.linked? = some (kind, head)) :
    head.key kind ∈ item.keys := by
  cases item with
  | importing | impl => cases linked
  | _ =>
      cases linked
      exact List.mem_cons_self

/-- The links of a module are filed under the kinds of which it has items. -/
theorem moduleLinks_eq (items : List Item) :
    moduleLinks items =
      ((Kind.linkCategories .module).filter fun kind =>
        !(linksOfKind items kind).isEmpty).map
          fun kind => (kind, linksOfKind items kind) := by
  rw [moduleLinks, ← List.filterMap_eq_map, List.filterMap_filter]
  congr 1
  funext kind
  cases shape : linksOfKind items kind with
  | nil => rfl
  | cons link links => simp [shape]

theorem links_moduleLinks
    {items : List Item}
    (among : keysOfAll items ⊆ keys) :
    Links.AreNamed (moduleLinks items) ∧
      Links.LeadTo keys (moduleLinks items) := by
  have linked :
      ∀ kind, ∀ link ∈ linksOfKind items kind,
        ∃ head : Head,
          link = ⟨head.name, head.path⟩ ∧
            head.key kind ∈ keysOfAll items := by
    intro kind link member
    rcases List.mem_filterMap.1 member with ⟨item, inItems, made⟩
    cases shape : item.linked? with
    | none =>
        rw [shape] at made
        cases made
    | some found =>
        rcases found with ⟨other, head⟩
        rw [shape] at made
        dsimp only at made
        split at made
        · rename_i same
          cases made
          refine ⟨head, rfl, mem_keysOfAll.2 ⟨item, inItems, ?_⟩⟩
          rw [← same]
          exact key_mem_of_linked? shape
        · cases made
  rw [moduleLinks_eq]
  constructor
  · constructor
    · have kinds : (Kind.linkCategories .module).Nodup := by decide
      rw [List.map_map]
      exact (kinds.filter _).map fun _ _ same => same
    · intro filed member link isTarget
      rcases List.mem_map.1 member with ⟨kind, _, rfl⟩
      rcases linked kind link isTarget with ⟨head, rfl, _⟩
      rfl
  · intro filed member link isTarget
    rcases List.mem_map.1 member with ⟨kind, _, rfl⟩
    rcases linked kind link isTarget with ⟨head, rfl, known⟩
    exact among known

mutual

theorem isStorable_of_mem_records
    (sound : crate.IsSound) :
    (item : Item) → item.keys ⊆ keys →
      ∀ record ∈ item.records crate, IsStorable crate keys record
  | .module head info items, among => by
    rw [Item.keys, List.cons_subset] at among
    have linked := links_moduleLinks among.2
    rw [Item.records, List.forall_mem_cons]
    exact ⟨.of_head sound rfl linked.1 linked.2,
      isStorable_of_mem_recordsOfAll sound items among.2⟩
  | .struct head fields isTuple, among => by
    rw [Item.keys, ← map_key_structRecords crate] at among
    rw [Item.records]
    exact isStorable_of_mem_structRecords sound among
  | .enum head variants, among => by
    rw [Item.keys, ← map_key_enumRecords crate] at among
    rw [Item.records]
    exact isStorable_of_mem_enumRecords sound among
  | .trait head safety items, among => by
    rw [Item.keys, ← map_key_traitRecords crate head safety] at among
    rw [Item.records]
    exact isStorable_of_mem_traitRecords sound among
  | .function _ _, _ | .constant _ _ _, _ | .macroRules _ _, _ => by
    rw [Item.records, List.forall_mem_singleton]
    exact .of_head_of_nil sound rfl
  | .importing _ _, _ | .impl _, _ => by
    rw [Item.records]
    intro record member
    cases member

theorem isStorable_of_mem_recordsOfAll
    (sound : crate.IsSound) :
    (items : List Item) → keysOfAll items ⊆ keys →
      ∀ record ∈ recordsOfAll crate items, IsStorable crate keys record
  | [], _ => by
    rw [recordsOfAll]
    intro record member
    cases member
  | item :: rest, among => by
    rw [keysOfAll, List.append_subset] at among
    rw [recordsOfAll]
    intro record member
    rcases List.mem_append.1 member with here | there
    · exact isStorable_of_mem_records sound item among.1 record here
    · exact isStorable_of_mem_recordsOfAll sound rest among.2 record there

end

/-! ## Records of blocks -/

theorem isStorable_of_mem_attachedRecords
    {attached : Attached}
    (sound : crate.IsSound) :
    ∀ record ∈ attached.records crate, IsStorable crate keys record := by
  intro record member
  rcases List.mem_map.1 member with ⟨item, _, rfl⟩
  exact isStorable_of_links_eq_nil sound rfl rfl ⟨_, rfl⟩
    (fits_implKind item.content) rfl

theorem mem_changeLast
    {α : Type}
    {property : α → Bool}
    {change : α → α}
    {value : α}
    {values : List α}
    (member : value ∈ changeLast property change values) :
    value ∈ values ∨ ∃ other ∈ values, value = change other := by
  induction values with
  | nil => cases member
  | cons first values inductionStep =>
      rw [changeLast] at member
      split at member
      · rcases List.mem_cons.1 member with rfl | later
        · exact Or.inr ⟨first, List.mem_cons_self, rfl⟩
        · exact Or.inl (List.mem_cons_of_mem _ later)
      · rcases List.mem_cons.1 member with rfl | later
        · exact Or.inl List.mem_cons_self
        · rcases inductionStep later with kept | ⟨other, among, rfl⟩
          · exact Or.inl (List.mem_cons_of_mem _ kept)
          · exact Or.inr ⟨other, List.mem_cons_of_mem _ among, rfl⟩

/-- Links to records of a block are added to the record of a type. -/
theorem isStorable_of_mem_linkFrom
    {path : ItemPath}
    {records : List Record}
    (storable : ∀ record ∈ records, IsStorable crate keys record)
    (texts : ∀ part ∈ parts, part.name.isText = true)
    (among : parts.map Record.key ⊆ keys) :
    ∀ record ∈ linkFrom path records parts, IsStorable crate keys record := by
  intro record member
  unfold linkFrom at member
  split at member
  · exact storable record member
  · rcases mem_changeLast member with kept | ⟨other, isOther, rfl⟩
    · exact storable record kept
    · have before := storable other isOther
      have linked :=
        links_foldl_add before.formed.links before.linked texts among
      exact {
        owned := before.owned
        formed := { before.formed with links := linked.1 }
        linked := linked.2 }

/-- The records of a crate are well formed, and their links lead to records
of the crate. -/
theorem isStorable_of_mem_records_fst
    {tree : CrateTree}
    (sound : crate.IsSound) :
    ∀ record ∈ (records crate tree).1,
      IsStorable crate ((records crate tree).1.map Record.key) record := by
  have keys := map_key_records_fst crate tree
  generalize (records crate tree).1.map Record.key = all at keys ⊢
  have rooted :
      ∀ record ∈ tree.root.records crate, IsStorable crate all record := by
    apply isStorable_of_mem_records sound
    rw [keys]
    exact List.subset_append_left _ _
  have linked :
      ∀ (blocks : List Attached) (records : List Record),
        blocks.flatMap Attached.keys ⊆ all →
          (∀ record ∈ records, IsStorable crate all record) →
            ∀ record ∈ blocks.foldl
                (fun records attached =>
                  linkFrom attached.target records
                    (attached.records crate)) records,
              IsStorable crate all record := by
    intro blocks
    induction blocks with
    | nil => exact fun records _ storable => storable
    | cons attached blocks inductionStep =>
        intro records among storable
        rw [List.flatMap_cons, List.append_subset] at among
        apply inductionStep _ among.2
        apply isStorable_of_mem_linkFrom storable
        · intro part member
          have stored : IsStorable crate all part :=
            isStorable_of_mem_attachedRecords sound part member
          exact stored.formed.name
        · rw [map_key_attachedRecords]
          exact among.1
  intro record member
  rcases List.mem_append.1 member with inTree | inBlocks
  · apply linked _ _ _ rooted record inTree
    rw [keys]
    exact List.subset_append_right _ _
  · rcases List.mem_flatMap.1 inBlocks with ⟨attached, _, among⟩
    exact isStorable_of_mem_attachedRecords sound record among

/-! ## Crates -/

theorem isPlainName_identifier
    {name : String}
    (some : name ≠ "")
    (colonless : ':' ∉ name.toList) :
    ItemPath.IsPlainName (CrateId.identifier name) := by
  have chars :
      (CrateId.identifier name).toList =
        name.toList.map fun char => if char = '-' then '_' else char := by
    rw [CrateId.identifier, String.toList_ofList, Text.replaceChar]
  constructor
  · intro none
    rw [none] at chars
    apply some
    rw [← String.toList_inj]
    simpa using chars.symm
  · rw [chars, List.mem_map]
    rintro ⟨char, member, same⟩
    split at same
    · exact absurd same (by decide)
    · rw [same] at member
      exact colonless member

variable
    {files : FileTree}
    {skipsHidden : Bool}
    {file? : Option DiskPath}
    {declarations : List Declaration}
    {tree : CrateTree}
    {outline : Outline}
    {key : Key}

section

variable [Depths]

/-- What the tree of a crate documents has its name at the end of its
path. -/
theorem IsRead.name_of_mem_keys
    (read : IsRead files crate skipsHidden file? declarations tree outline)
    (member : key ∈ tree.root.keys) :
    ∃ name : String, key.name = .text name ∧ key.path.name? = some name := by
  rw [CrateTree.root, Item.keys, List.mem_cons, read.items_eq] at member
  rcases member with rfl | member
  · refine ⟨tree.head.name, rfl, ?_⟩
    rw [Head.key, read.name_eq, read.path_eq]
    rfl
  · rcases read.reads.exists_documents member with
      ⟨inner, part, _, documents⟩
    cases documents with
    | item name kind declared => exact ⟨name, rfl, ItemPath.name?_push _ _⟩
    | part outer name kind holder declared =>
        exact ⟨name, rfl, ItemPath.name?_push _ _⟩
    | macroUse outer name holder used =>
        exact ⟨name, rfl, ItemPath.name?_push _ _⟩

/-- Whether all names in a crate are plain. -/
def IsPlainlyNamed (files : FileTree) (crate : CrateId) (skipsHidden : Bool)
    (file? : Option DiskPath) (declarations : List Declaration) : Prop :=
  ∀ name,
    IsNamed files skipsHidden (rootPlace crate file?)
        (declarationsWithNotes [] declarations) name →
      ItemPath.IsPlainName name

/-- Whether a macro is used in a trait or a block of a crate by a text that is
no plain name. -/
def IsOddlyUsed (files : FileTree) (crate : CrateId) (skipsHidden : Bool)
    (file? : Option DiskPath) (declarations : List Declaration)
    (name : Label) : Prop :=
  ∃ text, name = .text text ∧
    IsUsed files skipsHidden (rootPlace crate file?)
      (declarationsWithNotes [] declarations) text ∧
    ¬ ItemPath.IsPlainName text

theorem IsRead.isSound_or_isOddlyUsed
    (read : IsRead files crate skipsHidden file? declarations tree outline)
    (top : (rootPlace crate file?).path.IsSound)
    (plain : IsPlainlyNamed files crate skipsHidden file? declarations)
    (member : key ∈ tree.root.keys) :
    key.path.IsSound ∨
      key.kind = .traitItemMacro ∧
        IsOddlyUsed files crate skipsHidden file? declarations key.name := by
  rw [CrateTree.root, Item.keys, List.mem_cons, read.items_eq] at member
  rcases member with rfl | member
  · rw [Head.key, read.path_eq]
    exact Or.inl top
  · exact read.reads.isSound_or_isUsed top plain member

theorem IsRead.isSound_of_mem_types
    {path : ItemPath}
    (read : IsRead files crate skipsHidden file? declarations tree outline)
    (top : (rootPlace crate file?).path.IsSound)
    (plain : IsPlainlyNamed files crate skipsHidden file? declarations)
    (known : path ∈ (TypeIndex.ofTree tree).types) :
    path.IsSound := by
  rcases TypeIndex.exists_key_of_mem_types known with
    ⟨key, member, rfl, proper⟩
  rcases read.isSound_or_isOddlyUsed top plain
      (List.mem_cons_of_mem _ member) with sound | ⟨isMacro, _⟩
  · exact sound
  · rw [isMacro] at proper
    cases proper

/-- The items of a block are named in the block. -/
theorem IsRead.of_mem_attachedKeys
    {attached : Attached}
    (read : IsRead files crate skipsHidden file? declarations tree outline)
    (kept : attached ∈ (resolve tree).1)
    (member : key ∈ attached.keys) :
    ∃ name : String,
      key.name = .text name ∧
        key.path = attached.target.push name ∧
          (IsNamed files skipsHidden (rootPlace crate file?)
              (declarationsWithNotes [] declarations) name ∨
            key.kind = .macroRules ∧
              IsUsed files skipsHidden (rootPlace crate file?)
                (declarationsWithNotes [] declarations) name) := by
  rcases mem_resolve_iff.1 kept with ⟨block, isBlock, same, _⟩
  rcases List.mem_map.1 member with ⟨item, inBlock, rfl⟩
  refine ⟨item.name, rfl, rfl, ?_⟩
  rw [same, block_attach] at inBlock
  rw [read.impls_eq] at isBlock
  rcases read.reads.isDeclared isBlock with
    ⟨inner, notes, head, body, order, includes, _, rfl⟩
  rcases name_of_mem_assocItemsOf inBlock with
    proper | ⟨⟨text, content⟩, used⟩
  · exact Or.inl ⟨inner, _, includes, List.mem_append_right _ proper⟩
  · refine Or.inr ⟨?_, inner, _, includes, used⟩
    dsimp only
    rw [content]
    rfl

/-- Where a path of a crate with plain names is not readable, a macro is used
oddly, or the type of a block is not found. -/
theorem IsRead.of_not_isReadable
    (read : IsRead files crate skipsHidden file? declarations tree outline)
    (top : (rootPlace crate file?).path.IsSound)
    (plain : IsPlainlyNamed files crate skipsHidden file? declarations)
    (member : key ∈ (records crate tree).1.map Record.key)
    (unreadable : ¬ key.path.IsReadable) :
    (key.kind = .traitItemMacro ∨ key.kind = .macroRules) ∧
        IsOddlyUsed files crate skipsHidden file? declarations key.name ∨
      ∃ attached ∈ (resolve tree).1,
        IsStray (TypeIndex.ofTree tree) tree.hidden attached.block ∧
          key ∈ attached.keys ∧
            ¬ attached.target.IsSound := by
  have unsound : ¬ key.path.IsSound :=
    fun sound => unreadable sound.isReadable
  rw [map_key_records_fst, List.mem_append, List.mem_flatMap] at member
  rcases member with inTree | ⟨attached, kept, among⟩
  · rcases read.isSound_or_isOddlyUsed top plain inTree with
      sound | ⟨isMacro, used⟩
    · exact absurd sound unsound
    · exact Or.inl ⟨Or.inl isMacro, used⟩
  · rcases read.of_mem_attachedKeys kept among with
      ⟨name, named, path, declared⟩
    rw [path, ItemPath.isSound_push_iff, not_and_or] at unsound
    rcases unsound with target | last
    · rcases mem_types_or_isStray kept with known | ⟨stray, _⟩
      · exact absurd (read.isSound_of_mem_types top plain known) target
      · exact Or.inr ⟨attached, kept, stray, among, target⟩
    · rcases declared with proper | ⟨isMacro, used⟩
      · exact absurd (plain name proper) last
      · exact Or.inl ⟨Or.inr isMacro, name, named, used, last⟩

/--
Every record of a crate has its name at the end of its path and a payload of
its kind, and its links lead to records of the crate.  A record survives being
stored exactly when it fits, which it does not where a text of its
documentation is torn, and its path and those of its links are readable.  If
all names in the crate are plain, a path is not readable only if its last name
is the text by which a macro is used in a trait or a block, and is no plain
name; or if it is that of an item of a block whose type is not found and is
documented under a path that is not sound.
-/
theorem survives_iff_and_unreadable
    {name version : String}
    (made : CrateId.make name version = .ok crate)
    (colonless : ':' ∉ name.toList)
    (read : treeOf files crate skipsHidden file? declarations = .ok tree) :
    (∀ text, Source.parse text = .ok declarations →
      (document files crate skipsHidden text file?).1 =
        .ok (records crate tree).1) ∧
    ∀ record ∈ (records crate tree).1,
      (∃ last : String,
        record.name = .text last ∧ record.path.name? = some last) ∧
      record.payload.fits record.kind = true ∧
      (∀ filed ∈ record.links, ∀ link ∈ filed.2,
        ∃ other ∈ (records crate tree).1,
          other.key = ⟨link.name, filed.1, link.path⟩) ∧
      (record.Survives ↔
        record.toValue.fits = true ∧
          record.path.IsReadable ∧
          ∀ filed ∈ record.links, ∀ link ∈ filed.2, link.path.IsReadable) ∧
      (∀ text, .torn text ∈ record.docs → ¬ record.Survives) ∧
      (IsPlainlyNamed files crate skipsHidden file? declarations →
        ¬ record.path.IsReadable →
          (record.kind = .traitItemMacro ∨ record.kind = .macroRules) ∧
              IsOddlyUsed files crate skipsHidden file? declarations
                record.name ∨
            ∃ attached ∈ (resolve tree).1,
              IsStray (TypeIndex.ofTree tree) tree.hidden attached.block ∧
                record.key ∈ attached.keys ∧
                  ¬ attached.target.IsSound) := by
  rcases (CrateId.make_eq_ok_iff _ _ _).1 made with ⟨some, alsoSome, rfl⟩
  rcases exists_isRead read with ⟨outline, isRead⟩
  have sound : (CrateId.mk (.text name) (.text version)).IsSound := by
    refine ⟨⟨rfl, ?_⟩, rfl, ?_⟩
    · simpa [Pack.Value.isTruthy] using some
    · simpa [Pack.Value.isTruthy] using alsoSome
  have top :
      (rootPlace (CrateId.mk (.text name) (.text version))
        file?).path.IsSound := by
    intro segment member
    rw [List.mem_singleton.1 member]
    exact isPlainName_identifier some colonless
  refine ⟨?_, ?_⟩
  · intro text parsed
    rw [document_of_parse parsed, read]
    rfl
  · intro record member
    have stored := isStorable_of_mem_records_fst sound record member
    have listed := List.mem_map_of_mem (f := Record.key) member
    refine ⟨?_, stored.formed.payload, ?_, Record.survives_iff stored.formed,
      ?_, ?_⟩
    · have keyed := listed
      rw [map_key_records_fst, List.mem_append, List.mem_flatMap] at keyed
      rcases keyed with inTree | ⟨attached, kept, among⟩
      · exact isRead.name_of_mem_keys inTree
      · rcases isRead.of_mem_attachedKeys kept among with
          ⟨last, named, path, _⟩
        refine ⟨last, named, ?_⟩
        change record.key.path.name? = _
        rw [path, ItemPath.name?_push]
    · intro filed inLinks link isTarget
      exact List.mem_map.1 (stored.linked filed inLinks link isTarget)
    · intro text torn survives
      have fits := ((Record.survives_iff stored.formed).1 survives).1
      cases Record.fits_of_mem_docs fits torn
    · intro plain unreadable
      exact isRead.of_not_isReadable top plain listed unreadable

end

/-! ## A macro that is used by its path -/

section

attribute [local instance] Depths.usual

/-- A crate with a block in which a macro is used by its path. -/
def macroCrate : List Declaration :=
  [ .struct "S" .everywhere .unit,
    .impl ⟨"S", none, false, 14⟩
      (some [.macroCall "foo::bar" "foo::bar!{}"]) ]

/-- The block of the crate. -/
def macroBlock : Impl where
  modulePath := ⟨["krate"]⟩
  targetText := "S"
  traitText := none
  safety := .normal
  items := [⟨"foo::bar", .inherited, [], .macroCall "foo::bar!{}"⟩]
  docs := []
  file? := none
  start := 14
  order := 0

/-- The tree of the crate. -/
def macroTree : CrateTree where
  head := ⟨"krate", ⟨["krate"]⟩, .everywhere, []⟩
  info := { isRoot := true }
  items := [.struct ⟨"S", ⟨["krate", "S"]⟩, .everywhere, []⟩ [] false, .impl 0]
  impls := [macroBlock]
  hidden := []

/-- The record of the macro. -/
def macroRecord : Record where
  name := "foo::bar"
  kind := .macroRules
  crate := sampleCrate
  path := ⟨["krate", "S", "foo::bar"]⟩
  visibility := .inherited
  docs := []
  payload := .macroRules ⟨"foo::bar!{}"⟩
  implContext := some ⟨"S", some none, some .normal⟩

theorem treeOf_macroCrate :
    treeOf {} sampleCrate true none macroCrate = .ok macroTree := rfl

theorem mem_records_macroTree :
    macroRecord ∈ (records sampleCrate macroTree).1 := by
  have first : (TypeIndex.ofTree macroTree).candidates macroBlock =
      [⟨["krate", "S"]⟩] := by
    decide +kernel
  have known : (TypeIndex.ofTree macroTree).lookup? ⟨["krate", "S"]⟩ =
      some ⟨["krate", "S"]⟩ :=
    TypeIndex.lookup?_of_mem_types (by decide +kernel)
  have kept : ⟨macroBlock, ⟨["krate", "S"]⟩, true⟩ ∈
      (resolve macroTree).1 := by
    rw [mem_resolve_iff]
    refine ⟨macroBlock, List.mem_singleton_self _, ?_, List.not_mem_nil⟩
    simp [attach, first, known]
  apply List.mem_append_right
  rw [List.mem_flatMap]
  exact ⟨_, kept, List.mem_singleton_self _⟩

theorem isPlainlyNamed_macroCrate :
    IsPlainlyNamed {} sampleCrate true none macroCrate := by
  rintro name ⟨inner, part, includes, named⟩
  have shape : declarationsWithNotes [] macroCrate =
      [([], macroCrate[0]), ([], macroCrate[1])] := rfl
  rw [shape] at includes
  cases includes with
  | here member =>
      rw [List.mem_cons, List.mem_singleton] at member
      rcases member with rfl | rfl
      · have names : namesOf macroCrate[0] = ["S"] := rfl
        rw [names, List.mem_singleton] at named
        rw [named]
        decide
      · cases named
  | inside member =>
      rw [List.mem_cons, List.mem_singleton] at member
      rcases member with same | same <;> cases same

theorem survives_iff_and_unreadable_macroCrate :
    CrateId.make "krate" "0.1.0" = .ok sampleCrate ∧
      ':' ∉ "krate".toList ∧
      treeOf {} sampleCrate true none macroCrate = .ok macroTree ∧
      IsPlainlyNamed {} sampleCrate true none macroCrate ∧
      macroRecord ∈ (records sampleCrate macroTree).1 ∧
      macroRecord.toValue.fits = true ∧
      ¬ macroRecord.Survives := by
  have made : CrateId.make "krate" "0.1.0" = .ok sampleCrate := rfl
  have colonless : ':' ∉ "krate".toList := by decide
  have fits : macroRecord.toValue.fits = true := by decide +kernel
  refine ⟨made, colonless, treeOf_macroCrate, isPlainlyNamed_macroCrate,
    mem_records_macroTree, fits, ?_⟩
  have settled := (survives_iff_and_unreadable made colonless
    treeOf_macroCrate).2 macroRecord mem_records_macroTree
  rw [settled.2.2.2.1]
  rintro ⟨_, readable, _⟩
  revert readable
  decide +kernel

/-- Records of a crate can be read otherwise than they were stored. -/
theorem not_always_survives :
    ¬ ∀ name version crate files skipsHidden file? declarations tree,
      CrateId.make name version = .ok crate →
      ':' ∉ name.toList →
      treeOf files crate skipsHidden file? declarations = .ok tree →
        ∀ record ∈ (records crate tree).1,
          record.toValue.fits = true → record.Survives := by
  intro claimed
  have survives := claimed "krate" "0.1.0" _ _ _ _ _ _ rfl (by decide)
    treeOf_macroCrate macroRecord mem_records_macroTree (by decide +kernel)
  have formed :=
    (isStorable_of_mem_records_fst (by decide +kernel) macroRecord
      mem_records_macroTree).formed
  have readable :=
    ((Record.survives_iff formed).1 survives).2.1
  revert readable
  decide +kernel

end

end Tree

end CrateShelf
