import CrateShelf.Proofs.Tree.Thinning

/-!
# What hiding does to records

A crate is documented twice, once leaving hidden items out.  The tree only
loses records by that.  But the type of an `impl` block is looked for among
what is left: a block whose type is hidden may be found to be about another
type of the same name.

Main statement: each record of the crate without its hidden items is one of
the whole crate, unless its block belongs elsewhere in the whole crate; this
happens only if a reading of the block leads to a hidden path, or below one,
before it leads to a type.
-/

namespace CrateShelf.Tree

open Docs (Note)
open Source (Declaration)

variable
    {files : FileTree}
    {crate : CrateId}
    {file? : Option DiskPath}
    {declarations : List Declaration}
    {fewer more : CrateTree}

/-! ## Two indexes -/

section

variable [Depths]

/-- A crate was read twice from the same declarations, once without its
hidden items. -/
structure AreRead (files : FileTree) (crate : CrateId)
    (file? : Option DiskPath) (declarations : List Declaration)
    (fewer more : CrateTree) : Prop where
  hides : ∃ outline, IsRead files crate true file? declarations fewer outline
  shows : ∃ outline, IsRead files crate false file? declarations more outline

theorem areRead_of_treeOf
    (hides : treeOf files crate true file? declarations = .ok fewer)
    (shows : treeOf files crate false file? declarations = .ok more) :
    AreRead files crate file? declarations fewer more :=
  ⟨exists_isRead hides, exists_isRead shows⟩

theorem AreRead.thins
    (read : AreRead files crate file? declarations fewer more) :
    Thins fewer.hidden [fewer.root] [more.root] := by
  obtain ⟨outline, hides⟩ := read.hides
  obtain ⟨whole, shows⟩ := read.shows
  have known : outline.hidden ⊆ fewer.hidden := fun path member =>
    (hides.hidden_iff path).2 member
  obtain ⟨thins, sameUses, _⟩ := hides.reads.thins shows.reads known
  rw [CrateTree.root, CrateTree.root, hides.items_eq, shows.items_eq]
  refine .module ?_ ?_ thins .nil
  · rw [Head.key, Head.key, hides.name_eq, shows.name_eq, hides.path_eq,
      shows.path_eq]
  · rw [hides.uses_eq, shows.uses_eq, sameUses]

theorem AreRead.keys_subset
    (read : AreRead files crate file? declarations fewer more) :
    fewer.root.keys ⊆ more.root.keys := by
  have subset := read.thins.keys_subset
  simpa [keysOfAll] using subset

theorem AreRead.exists_like
    (read : AreRead files crate file? declarations fewer more)
    {block : Impl}
    (member : block ∈ fewer.impls) :
    ∃ like ∈ more.impls, Resembles block like := by
  obtain ⟨outline, hides⟩ := read.hides
  obtain ⟨whole, shows⟩ := read.shows
  have like :=
    (hides.reads.thins shows.reads (List.Subset.refl _)).2.2
  rw [← hides.impls_eq, ← shows.impls_eq] at like
  exact like block member

theorem AreRead.hidden_eq_nil
    (read : AreRead files crate file? declarations fewer more) :
    more.hidden = [] := by
  obtain ⟨whole, shows⟩ := read.shows
  rw [List.eq_nil_iff_forall_not_mem]
  intro path member
  rw [shows.hidden_iff, shows.reads.hidden_eq_nil] at member
  cases member

/-- Away from hidden paths, both crates have the same modules, but for the
items that are hidden. -/
theorem AreRead.agrees
    (read : AreRead files crate file? declarations fewer more)
    {path : ItemPath}
    (clear : ¬ IsUnder fewer.hidden path) :
    Agrees fewer.hidden (lastAt? path fewer.root.modules)
      (lastAt? path more.root.modules) := by
  have alone : ∀ item, modulesOfAll [item] = item.modules := by
    simp [modulesOfAll]
  have agrees := read.thins.agrees clear
  rwa [alone, alone] at agrees

theorem AreRead.uses?_eq
    (read : AreRead files crate file? declarations fewer more)
    {path : ItemPath}
    (clear : ¬ IsUnder fewer.hidden path) :
    (TypeIndex.ofTree fewer).uses? path =
      (TypeIndex.ofTree more).uses? path := by
  rw [TypeIndex.uses?_ofTree, TypeIndex.uses?_ofTree]
  exact (read.agrees clear).map_fst_eq

/-- The types of a crate stand right below the modules that they are found
in. -/
theorem IsRead.mem_types_iff
    {skipsHidden : Bool}
    {tree : CrateTree}
    {outline : Outline}
    (read : IsRead files crate skipsHidden file? declarations tree outline)
    (path : ItemPath) :
    path ∈ (TypeIndex.ofTree tree).types ↔
      ∃ owner, path.parent? = some owner ∧
        ∃ uses items,
          lastAt? owner tree.root.modules = some (uses, items) ∧
            ∃ item ∈ items, typePath? item = some path := by
  rw [TypeIndex.mem_types_ofTree]
  constructor
  · rintro ⟨owner, uses, items, last, item, member, typed⟩
    have owned := read.holdsTypes (mem_of_lastAt? last)
    exact ⟨owner, owned item member path typed, uses, items, last, item,
      member, typed⟩
  · rintro ⟨owner, _, uses, items, found⟩
    exact ⟨owner, uses, items, found⟩

omit [Depths] in
theorem not_isUnder_parent
    {hidden : List ItemPath}
    {path owner : ItemPath}
    (above : path.parent? = some owner)
    (clear : ¬ IsUnder hidden path) :
    ¬ IsUnder hidden owner := by
  intro under
  refine clear (under.of_startsWith ?_)
  rw [ItemPath.parent?] at above
  split at above
  · cases above
  · cases above
    exact ItemPath.startsWith_iff_segments.2 ( List.dropLast_prefix _)

theorem AreRead.mem_types_iff
    (read : AreRead files crate file? declarations fewer more)
    {path : ItemPath}
    (clear : ¬ IsUnder fewer.hidden path) :
    path ∈ (TypeIndex.ofTree fewer).types ↔
      path ∈ (TypeIndex.ofTree more).types := by
  obtain ⟨outline, hides⟩ := read.hides
  obtain ⟨whole, shows⟩ := read.shows
  rw [hides.mem_types_iff, shows.mem_types_iff]
  refine exists_congr fun owner => and_congr_right fun above => ?_
  have agrees := read.agrees (not_isUnder_parent above clear)
  exact agrees.exists_typePath?_iff clear

theorem AreRead.imports_eq
    (read : AreRead files crate file? declarations fewer more)
    {path : ItemPath}
    (clear : ¬ IsUnder fewer.hidden path) :
    (TypeIndex.ofTree fewer).imports path =
      (TypeIndex.ofTree more).imports path := by
  have sameUses : path.parent?.bind (TypeIndex.ofTree fewer).uses? =
      path.parent?.bind (TypeIndex.ofTree more).uses? := by
    cases above : path.parent? with
    | none => rfl
    | some owner => exact read.uses?_eq (not_isUnder_parent above clear)
  rw [TypeIndex.imports, TypeIndex.imports, sameUses]

/-! ## Blocks in two crates -/

/-- Whether a block may be found to be about something else when hidden items
are left out: its module, or what a reading of it leads to, is hidden, and no
earlier reading leads to a type. -/
def IsTouched (hidden : List ItemPath) (index : TypeIndex) (block : Impl) :
    Prop :=
  IsUnder hidden block.modulePath ∨
    ∃ before reading after goal,
      index.candidates block = before ++ reading :: after ∧
        (∀ earlier ∈ before, index.lookup? earlier = none) ∧
        index.Leads TypeIndex.deepestImport reading goal ∧
        IsUnder hidden goal

omit [Depths] in
/-- The first results of two searches agree if the searches agree up to the
first result. -/
theorem findSome?_congr
    {first second : ItemPath → Option ItemPath}
    {paths : List ItemPath}
    (agree : ∀ before path after, paths = before ++ path :: after →
      (∀ earlier ∈ before, second earlier = none) →
        first path = second path) :
    paths.findSome? first = paths.findSome? second := by
  induction paths with
  | nil => rfl
  | cons path paths inductionStep =>
      have same := agree [] path paths rfl (by simp)
      rw [List.findSome?_cons, List.findSome?_cons, same]
      cases found : second path with
      | some result => rfl
      | none =>
          refine inductionStep fun before other after shape earlier => ?_
          refine agree (path :: before) other after (by rw [shape]; rfl) ?_
          exact List.forall_mem_cons.2 ⟨found, earlier⟩

theorem AreRead.candidates_eq
    (read : AreRead files crate file? declarations fewer more)
    {block like : Impl}
    (resembles : Resembles block like)
    (clear : ¬ IsUnder fewer.hidden like.modulePath) :
    (TypeIndex.ofTree fewer).candidates block =
      (TypeIndex.ofTree more).candidates like := by
  obtain ⟨outline, hides⟩ := read.hides
  obtain ⟨whole, shows⟩ := read.shows
  have sameRoot : (TypeIndex.ofTree fewer).root =
      (TypeIndex.ofTree more).root :=
    hides.path_eq.trans shows.path_eq.symm
  unfold TypeIndex.candidates
  rw [resembles.targetText_eq, resembles.modulePath_eq, sameRoot,
    read.uses?_eq clear]

/-- A block that is not touched belongs to the same path in both crates. -/
theorem AreRead.target_eq
    (read : AreRead files crate file? declarations fewer more)
    {block like : Impl}
    (resembles : Resembles block like)
    (untouched : ¬ IsTouched fewer.hidden (TypeIndex.ofTree more) like)
    (visible : (attach (TypeIndex.ofTree fewer) fewer.hidden
      block).1.target ∉ fewer.hidden) :
    (attach (TypeIndex.ofTree fewer) fewer.hidden block).1.target =
      (attach (TypeIndex.ofTree more) more.hidden like).1.target := by
  obtain ⟨clear, unled⟩ := not_or.1 untouched
  have sameReadings := read.candidates_eq resembles clear
  have sameFound :
      ((TypeIndex.ofTree more).candidates like).findSome?
          (TypeIndex.ofTree fewer).lookup? =
        ((TypeIndex.ofTree more).candidates like).findSome?
          (TypeIndex.ofTree more).lookup? := by
    refine findSome?_congr fun before reading after shape earlier => ?_
    refine TypeIndex.lookup?_congr fun goal leads => ?_
    have clear : ¬ IsUnder fewer.hidden goal := fun under =>
      unled ⟨before, reading, after, goal, shape, earlier, leads, under⟩
    exact ⟨read.mem_types_iff clear, read.imports_eq clear⟩
  have alsoVisible : (attach (TypeIndex.ofTree more) more.hidden
      like).1.target ∉ more.hidden := by
    simp [read.hidden_eq_nil]
  rw [target_attach visible, target_attach alsoVisible, strayTarget,
    strayTarget, sameReadings, sameFound, resembles.modulePath_eq]

/-! ## Records -/

omit [Depths] in
/-- A record of a crate is one of its tree or of a documented block. -/
theorem key_mem_or_exists_attached
    {tree : CrateTree}
    {record : Record}
    (member : record ∈ (records crate tree).1) :
    record.key ∈ tree.root.keys ∨
      ∃ attached ∈ (resolve tree).1, record ∈ attached.records crate := by
  rcases List.mem_append.1 member with member | member
  · have listed := List.mem_map_of_mem (f := Record.key) member
    rw [map_key_foldl_linkFrom, map_key_records] at listed
    exact Or.inl listed
  · exact Or.inr (List.mem_flatMap.1 member)

omit [Depths] in
/-- What a crate is documented by has a record. -/
theorem exists_record_of_key
    {tree : CrateTree}
    {key : Key}
    (listed : key ∈ tree.root.keys ∨
      ∃ attached ∈ (resolve tree).1, key ∈ attached.keys) :
    ∃ record ∈ (records crate tree).1, record.key = key := by
  refine (exists_record_iff_key crate tree (· = key)).2 ?_
  simpa only [exists_eq_right] using listed

/--
A crate is documented twice, once without its hidden items.  Each record of
the crate without them has a counterpart of the same name, kind and path in
the whole crate, or it is one of a block that belongs elsewhere in the whole
crate.  In that case the module of the block stands at or below a hidden
path, or a reading of it leads there through imports before any reading leads
to a type.
-/
theorem exists_counterpart_or_isTouched
    (hides : treeOf files crate true file? declarations = .ok fewer)
    (shows : treeOf files crate false file? declarations = .ok more) :
    (∀ text, Source.parse text = .ok declarations →
      (document files crate true text file?).1 =
          .ok (records crate fewer).1 ∧
        (document files crate false text file?).1 =
          .ok (records crate more).1) ∧
    ∀ record ∈ (records crate fewer).1,
      (∃ other ∈ (records crate more).1,
        other.name = record.name ∧ other.kind = record.kind ∧
          other.path = record.path) ∨
      ∃ attached ∈ (resolve fewer).1, record ∈ attached.records crate ∧
        ∃ other ∈ (resolve more).1,
          Resembles attached.block other.block ∧
            other.target ≠ attached.target ∧
            IsTouched fewer.hidden (TypeIndex.ofTree more) other.block := by
  constructor
  · intro text parsed
    rw [document_of_parse parsed, document_of_parse parsed, hides, shows]
    exact ⟨rfl, rfl⟩
  intro record member
  have read := areRead_of_treeOf hides shows
  have found : ∀ {key}, (key ∈ more.root.keys ∨
      ∃ attached ∈ (resolve more).1, key ∈ attached.keys) →
      record.key = key →
        ∃ other ∈ (records crate more).1, other.name = record.name ∧
          other.kind = record.kind ∧ other.path = record.path := by
    rintro _ listed rfl
    obtain ⟨other, among, same⟩ := exists_record_of_key listed
    exact ⟨other, among, congrArg Key.name same, congrArg Key.kind same,
      congrArg Key.path same⟩
  rcases key_mem_or_exists_attached member with
    listed | ⟨attached, kept, among⟩
  · exact Or.inl (found (Or.inl (read.keys_subset listed)) rfl)
  · -- Nothing is hidden in the whole crate, so the like of a block is kept
    -- there, wherever it belongs.
    obtain ⟨block, inCrate, rfl, visible⟩ := mem_resolve_iff.1 kept
    obtain ⟨like, alsoInCrate, resembles⟩ := read.exists_like inCrate
    have alsoKept : (attach (TypeIndex.ofTree more) more.hidden like).1 ∈
        (resolve more).1 := by
      refine mem_resolve_iff.2 ⟨like, alsoInCrate, rfl, ?_⟩
      simp [read.hidden_eq_nil]
    by_cases same :
        (attach (TypeIndex.ofTree more) more.hidden like).1.target =
          (attach (TypeIndex.ofTree fewer) fewer.hidden block).1.target
    · have listed := List.mem_map_of_mem (f := Record.key) among
      rw [map_key_attachedRecords, Attached.keys, block_attach, ← same]
        at listed
      refine Or.inl (found (Or.inr ⟨_, alsoKept, ?_⟩) rfl)
      rw [Attached.keys, block_attach]
      exact assocKeys_subset _ _ resembles.items_subset listed
    · refine Or.inr ⟨_, kept, among, _, alsoKept, ?_, same, ?_⟩
      · simpa using resembles
      · rw [block_attach]
        by_contra untouched
        exact same (read.target_eq resembles untouched visible).symm

end

/-! ## A block that belongs elsewhere -/

section

attribute [local instance] Depths.usual

/-- A crate with two types of the same name, of which the one with a block is
hidden. -/
def rivalCrate : List Declaration :=
  [ .struct "X" .everywhere .unit,
    .module "a" .everywhere (some
      [ .note (.attribute .outer "#[doc(hidden)]".toList),
        .struct "X" .everywhere .unit,
        .impl ⟨"X", none, false, 67⟩ (some
          [.function ⟨"f", .everywhere, "fn f()", false, false, []⟩]) ]) ]

/-- The block of the crate. -/
def rivalBlock : Impl where
  modulePath := ⟨["krate", "a"]⟩
  targetText := "X"
  traitText := none
  safety := .normal
  items := [⟨"f", .everywhere, [],
    .method ⟨"fn f()", .normal, .notConst, .rust, .inherentMethod⟩⟩]
  docs := []
  file? := none
  start := 67
  order := 0

/-- The crate, given the types in its module and its hidden paths. -/
def rivalTree (types : List Item) (hidden : List ItemPath) : CrateTree where
  head := ⟨"krate", ⟨["krate"]⟩, .everywhere, []⟩
  info := { isRoot := true }
  items :=
    [ .struct ⟨"X", ⟨["krate", "X"]⟩, .everywhere, []⟩ [] false,
      .module ⟨"a", ⟨["krate", "a"]⟩, .everywhere, []⟩ {}
        (types ++ [.impl 0]) ]
  impls := [rivalBlock]
  hidden

/-- The crate without its hidden items. -/
def thinRivalTree : CrateTree := rivalTree [] [⟨["krate", "a", "X"]⟩]

/-- The whole crate. -/
def wholeRivalTree : CrateTree :=
  rivalTree [.struct ⟨"X", ⟨["krate", "a", "X"]⟩, .everywhere, []⟩ [] false]
    []

theorem treeOf_thinRivalTree :
    treeOf {} sampleCrate true none rivalCrate = .ok thinRivalTree := rfl

theorem treeOf_wholeRivalTree :
    treeOf {} sampleCrate false none rivalCrate = .ok wholeRivalTree := rfl

theorem attach_thinRivalTree :
    attach (TypeIndex.ofTree thinRivalTree) thinRivalTree.hidden rivalBlock =
      (⟨rivalBlock, ⟨["krate", "X"]⟩, true⟩, true) := by
  have readings : (TypeIndex.ofTree thinRivalTree).candidates rivalBlock =
      [⟨["krate", "a", "X"]⟩, ⟨["krate", "X"]⟩] := by
    decide
  have unknown : (TypeIndex.ofTree thinRivalTree).lookup?
      ⟨["krate", "a", "X"]⟩ = none :=
    TypeIndex.lookup?_of_imports_eq_nil (by decide)
      (by decide)
  have known : (TypeIndex.ofTree thinRivalTree).lookup?
      ⟨["krate", "X"]⟩ = some ⟨["krate", "X"]⟩ :=
    TypeIndex.lookup?_of_mem_types (by decide)
  simp [attach, readings, unknown, known]

theorem attach_wholeRivalTree :
    attach (TypeIndex.ofTree wholeRivalTree) wholeRivalTree.hidden
        rivalBlock =
      (⟨rivalBlock, ⟨["krate", "a", "X"]⟩, true⟩, true) := by
  have readings : (TypeIndex.ofTree wholeRivalTree).candidates rivalBlock =
      [⟨["krate", "a", "X"]⟩, ⟨["krate", "X"]⟩] := by
    decide
  have known : (TypeIndex.ofTree wholeRivalTree).lookup?
      ⟨["krate", "a", "X"]⟩ = some ⟨["krate", "a", "X"]⟩ :=
    TypeIndex.lookup?_of_mem_types (by decide)
  simp [attach, readings, known]

theorem exists_counterpart_or_isTouched_rivalCrate :
    treeOf {} sampleCrate true none rivalCrate = .ok thinRivalTree ∧
      treeOf {} sampleCrate false none rivalCrate = .ok wholeRivalTree ∧
      ∀ record ∈ (records sampleCrate thinRivalTree).1,
        (∃ other ∈ (records sampleCrate wholeRivalTree).1,
          other.name = record.name ∧ other.kind = record.kind ∧
            other.path = record.path) ∨
        ∃ attached ∈ (resolve thinRivalTree).1,
          record ∈ attached.records sampleCrate ∧
            ∃ other ∈ (resolve wholeRivalTree).1,
              Resembles attached.block other.block ∧
                other.target ≠ attached.target ∧
                IsTouched thinRivalTree.hidden
                  (TypeIndex.ofTree wholeRivalTree) other.block :=
  ⟨treeOf_thinRivalTree, treeOf_wholeRivalTree,
    (exists_counterpart_or_isTouched treeOf_thinRivalTree
      treeOf_wholeRivalTree).2⟩

/-- Leaving hidden items out can add records: those of a block that is then
taken to be about another type. -/
theorem not_always_counterpart :
    ¬ ∀ files crate file? declarations fewer more,
      treeOf files crate true file? declarations = .ok fewer →
      treeOf files crate false file? declarations = .ok more →
      ∀ record ∈ (records crate fewer).1,
        ∃ other ∈ (records crate more).1,
          other.name = record.name ∧ other.kind = record.kind ∧
            other.path = record.path := by
  intro claimed
  have added : ∃ record ∈ (records sampleCrate thinRivalTree).1,
      record.key = ⟨"f", .function, ⟨["krate", "X", "f"]⟩⟩ := by
    refine exists_record_of_key (Or.inr ⟨_, mem_resolve_iff.2
      ⟨rivalBlock, List.mem_singleton_self _, rfl, ?_⟩, ?_⟩)
    · rw [attach_thinRivalTree]
      decide
    · rw [attach_thinRivalTree]
      decide
  obtain ⟨record, member, key⟩ := added
  obtain ⟨other, alsoMember, sameName, sameKind, samePath⟩ :=
    claimed _ _ _ _ _ _ treeOf_thinRivalTree treeOf_wholeRivalTree record
      member
  have listed : other.key ∈ (records sampleCrate wholeRivalTree).1.map
      Record.key := List.mem_map_of_mem alsoMember
  have same : other.key = ⟨"f", .function, ⟨["krate", "X", "f"]⟩⟩ := by
    rw [← key, Record.key, Record.key, sameName, sameKind, samePath]
  have resolved : (resolve wholeRivalTree).1 =
      [⟨rivalBlock, ⟨["krate", "a", "X"]⟩, true⟩] := by
    have impls : wholeRivalTree.orderedImpls = [rivalBlock] :=
      CrateTree.orderedImpls_of_pairwise wholeRivalTree
        (List.pairwise_singleton _ _)
    have nothing : wholeRivalTree.hidden = [] := rfl
    have attached := attach_wholeRivalTree
    rw [nothing] at attached
    simp [resolve, impls, nothing, attached, isKept]
  rw [same, map_key_records_fst, resolved] at listed
  revert listed
  decide

end

end CrateShelf.Tree
