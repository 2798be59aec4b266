import CrateShelf.Proofs.Tree.Hiding
import CrateShelf.Proofs.Tree.Inside

/-!
# Paths in a crate

All that is declared in a crate lies at or below its root, and so does every
path that an import stands for.  When the type of a block is read through one
of the imports, the last name of the imported path is cut off; if this path is
the root of the crate itself, nothing is left.

Main statement: a path that a block is attached to, or that a record has, is
outside of the crate exactly when the block is not attached to anything known
and its first name is imported first as the crate itself, unless it is the
name of the crate.
-/

namespace CrateShelf

namespace ItemPath

theorem startsWith_join (path rest : ItemPath) :
    (path.join rest).startsWith path = true :=
  (startsWith_iff _ _).2 ⟨rest, rfl⟩

/-- Below a path, going up by one name does not lead out. -/
theorem startsWith_pop
    {path top : ItemPath}
    (below : path.IsBelow top) :
    path.pop.startsWith top = true := by
  rcases List.eq_nil_or_concat path.segments with empty | ⟨front, last, shape⟩
  · have same : path = top := by
      apply startsWith_antisymm below.1
      rw [startsWith_iff_segments, empty]
      exact List.nil_prefix
    exact absurd same below.2
  · have pushed : path = (ItemPath.mk front).push last := by
      cases path
      rw [List.concat_eq_append] at shape
      exact congrArg ItemPath.mk shape
    rw [pushed] at below ⊢
    rw [pop_push]
    rcases startsWith_push_iff.1 below.1 with same | above
    · exact absurd same.symm below.2
    · exact above

/-- A path lies in a crate exactly when its first name is that of the
crate. -/
theorem startsWith_single_iff {path : ItemPath} {name : String} :
    path.startsWith (single name) = true ↔ path.head? = some name := by
  rw [startsWith_iff_segments, head?]
  cases path.segments with
  | nil => simp [single]
  | cons first rest =>
      simp [single, eq_comm]

/-- Where names take the place of the last name of a path in a crate, the
result lies in the crate, unless the path is the crate itself and the first
of the names is not. -/
theorem startsWith_pop_join_iff
    {path : ItemPath}
    {name first : String}
    {rest : List String}
    (within : path.startsWith (single name) = true) :
    (path.pop.join ⟨first :: rest⟩).startsWith (single name) = true ↔
      ¬ (path = single name ∧ name ≠ first) := by
  by_cases same : path = single name
  · have replaced : path.pop.join ⟨first :: rest⟩ = ⟨first :: rest⟩ := by
      rw [same]
      rfl
    rw [replaced, startsWith_single_iff, head?, List.head?_cons,
      Option.some.injEq]
    simp only [same, true_and, ne_eq, not_not]
    exact eq_comm
  · refine iff_of_true ?_ (fun leads => same leads.1)
    exact startsWith_trans (startsWith_join _ _) (startsWith_pop ⟨within, same⟩)

end ItemPath

namespace Tree

open Docs (Note)
open Source (Declaration)

variable
    {files : FileTree}
    {crate : CrateId}
    {skipsHidden : Bool}
    {file? : Option DiskPath}
    {declarations : List Declaration}
    {tree : CrateTree}
    {outline : Outline}
    {block : Impl}

/-! ## What is declared -/

section

variable [Depths]

/-- Everything in the tree of a crate lies in the crate. -/
theorem IsRead.startsWith_of_mem_keys
    (read : IsRead files crate skipsHidden file? declarations tree outline)
    {key : Key}
    (member : key ∈ tree.root.keys) :
    key.path.startsWith (rootPlace crate file?).path = true := by
  rw [CrateTree.root, Item.keys, List.mem_cons, read.items_eq] at member
  rcases member with rfl | member
  · rw [Head.key, read.path_eq]
    exact ItemPath.startsWith_refl _
  · exact (read.reads.reaches member).isBelow.1

theorem IsRead.startsWith_of_mem_types
    (read : IsRead files crate skipsHidden file? declarations tree outline)
    {path : ItemPath}
    (known : path ∈ (TypeIndex.ofTree tree).types) :
    path.startsWith (rootPlace crate file?).path = true := by
  rcases TypeIndex.exists_key_of_mem_types known with
    ⟨key, member, rfl, _⟩
  apply read.startsWith_of_mem_keys
  rw [CrateTree.root, Item.keys]
  exact List.mem_cons_of_mem _ member

theorem IsRead.startsWith_of_mem_hidden
    (read : IsRead files crate skipsHidden file? declarations tree outline)
    {path : ItemPath}
    (hidden : path ∈ tree.hidden) :
    path.startsWith (rootPlace crate file?).path = true := by
  rw [read.hidden_iff, read.reads.mem_hidden_iff] at hidden
  rcases hidden with ⟨_, _, _, _, declares, _⟩
  exact declares.isBelow.1

theorem IsRead.startsWith_modulePath
    (read : IsRead files crate skipsHidden file? declarations tree outline)
    (member : block ∈ tree.impls) :
    block.modulePath.startsWith (rootPlace crate file?).path = true := by
  rw [read.impls_eq] at member
  rcases read.reads.isDeclared member with
    ⟨inner, notes, head, body, order, includes, _, rfl⟩
  exact includes.startsWith

/-! ## Imports -/

/-- Whatever an import of a module in the crate is made of, it stands for
paths in the crate. -/
theorem IsImported.startsWith
    {place : Place}
    {noted : List (List Note × Declaration)}
    {root module target : ItemPath}
    {name : String}
    (inside : place.path.startsWith root = true)
    (imported : IsImported files root skipsHidden place noted module name
      target) :
    target.startsWith root = true := by
  rcases imported with
    ⟨inner, notes, text, visibility, tree, includes, rfl, binding, _, _,
      reading⟩
  exact startsWith_of_mem_absolutePaths binding.2 _ root target
    (ItemPath.startsWith_trans includes.startsWith inside) reading

/-- Every path in the imports that the index of a crate knows lies in the
crate. -/
theorem IsRead.startsWith_of_mem_uses
    (read : IsRead files crate skipsHidden file? declarations tree outline)
    {module target : ItemPath}
    {uses : UseTable}
    {name : String}
    (known : (TypeIndex.ofTree tree).uses? module = some uses)
    (bound : target ∈ uses.get name) :
    target.startsWith (rootPlace crate file?).path = true :=
  (read.isImported known bound).startsWith (ItemPath.startsWith_refl _)

/-! ## Blocks -/

/-- The first path that a name stands for in the module of a block. -/
def firstImport? (index : TypeIndex) (block : Impl) (name : String) :
    Option ItemPath :=
  (((index.uses? block.modulePath).getD []).get name).head?

/-- The first name in the type of a block is imported in its module, first of
all as the crate itself, and it is not the name of the crate. -/
def LeadsOut (index : TypeIndex) (block : Impl) : Prop :=
  ∃ first rest,
    typeNames block.targetText = first :: rest ∧
      isAnchor first = false ∧
      firstImport? index block first = some index.root ∧
      index.root ≠ .single first

theorem IsRead.startsWith_of_firstImport?
    (read : IsRead files crate skipsHidden file? declarations tree outline)
    {name : String}
    {target : ItemPath}
    (bound : firstImport? (TypeIndex.ofTree tree) block name = some target) :
    target.startsWith (rootPlace crate file?).path = true := by
  unfold firstImport? at bound
  cases known : (TypeIndex.ofTree tree).uses? block.modulePath with
  | none =>
      rw [known] at bound
      cases bound
  | some uses =>
      rw [known, Option.getD_some] at bound
      exact read.startsWith_of_mem_uses known (List.mem_of_head? bound)

omit [Depths] in
theorem leadsOut_iff
    {index : TypeIndex}
    {first : String}
    {rest : List String}
    (names : typeNames block.targetText = first :: rest) :
    LeadsOut index block ↔
      isAnchor first = false ∧
        firstImport? index block first = some index.root ∧
        index.root ≠ .single first := by
  constructor
  · rintro ⟨other, others, shape, leads⟩
    rw [names] at shape
    cases shape
    exact leads
  · intro leads
    exact ⟨first, rest, names, leads⟩

omit [Depths] in
theorem not_leadsOut_of_nil
    {index : TypeIndex}
    (names : typeNames block.targetText = []) :
    ¬ LeadsOut index block := by
  rintro ⟨first, rest, shape, _⟩
  rw [names] at shape
  cases shape

omit [Depths] in
theorem head?_eraseDups (paths : List ItemPath) :
    paths.eraseDups.head? = paths.head? := by
  cases paths with
  | nil => rfl
  | cons path paths => simp [List.eraseDups_cons]

omit [Depths] in
/-- The first reading of a type without an anchor goes through the first path
that its first name stands for, or else through the module. -/
theorem strayTarget_eq
    {index : TypeIndex}
    {first : String}
    {rest : List String}
    (names : typeNames block.targetText = first :: rest)
    (plain : isAnchor first = false) :
    strayTarget index block =
      match firstImport? index block first with
      | some target => target.pop.join ⟨first :: rest⟩
      | none => block.modulePath.join ⟨first :: rest⟩ := by
  unfold strayTarget TypeIndex.candidates firstImport?
  simp only [names, plain, Bool.false_eq_true, if_false, head?_eraseDups,
    List.append_assoc]
  cases ((index.uses? block.modulePath).getD []).get first with
  | nil => rfl
  | cons target targets => rfl

omit [Depths] in
theorem strayTarget_of_nil
    {index : TypeIndex}
    (names : typeNames block.targetText = []) :
    strayTarget index block = block.modulePath := by
  simp [strayTarget, TypeIndex.candidates, names]

omit [Depths] in
/-- With an anchor, there is one reading, and it lies in the crate. -/
theorem startsWith_strayTarget_of_isAnchor
    {index : TypeIndex}
    {first : String}
    {rest : List String}
    (inside : block.modulePath.startsWith index.root = true)
    (names : typeNames block.targetText = first :: rest)
    (anchored : isAnchor first = true) :
    (strayTarget index block).startsWith index.root = true := by
  have readings : index.candidates block =
      absolutePaths (first :: rest) block.modulePath index.root := by
    simp [TypeIndex.candidates, names, anchored]
  rw [strayTarget, readings]
  cases shape : absolutePaths (first :: rest) block.modulePath
      index.root with
  | nil => exact inside
  | cons path paths =>
      apply startsWith_of_mem_absolutePaths _ _ _ _ inside
      rw [shape]
      exact List.mem_cons_self

theorem IsRead.root_eq
    (read : IsRead files crate skipsHidden file? declarations tree outline) :
    (TypeIndex.ofTree tree).root =
      .single (CrateId.identifier crate.name.written) :=
  read.path_eq

/-- The first reading of a block in a crate lies in the crate, unless the
block leads out. -/
theorem IsRead.startsWith_strayTarget_iff
    (read : IsRead files crate skipsHidden file? declarations tree outline)
    (member : block ∈ tree.impls) :
    (strayTarget (TypeIndex.ofTree tree) block).startsWith
        (rootPlace crate file?).path = true ↔
      ¬ LeadsOut (TypeIndex.ofTree tree) block := by
  have root : (TypeIndex.ofTree tree).root = (rootPlace crate file?).path :=
    read.path_eq
  have inside := read.startsWith_modulePath member
  rw [← root] at inside ⊢
  have joined : ∀ names,
      (block.modulePath.join ⟨names⟩).startsWith
        (TypeIndex.ofTree tree).root = true := fun names =>
    ItemPath.startsWith_trans (ItemPath.startsWith_join _ _) inside
  cases names : typeNames block.targetText with
  | nil =>
      rw [strayTarget_of_nil names]
      exact iff_of_true inside (not_leadsOut_of_nil names)
  | cons first rest =>
      rw [leadsOut_iff names]
      cases anchored : isAnchor first with
      | true =>
          refine iff_of_true ?_ (by simp)
          exact startsWith_strayTarget_of_isAnchor inside names anchored
      | false =>
          rw [strayTarget_eq names anchored]
          cases bound : firstImport? (TypeIndex.ofTree tree) block first with
          | none => exact iff_of_true (joined _) (by simp)
          | some target =>
              have within : target.startsWith
                  (TypeIndex.ofTree tree).root = true := by
                rw [root]
                exact read.startsWith_of_firstImport? bound
              rw [read.root_eq] at within ⊢
              rw [ItemPath.startsWith_pop_join_iff within]
              simp [ItemPath.single]

/-! ## Whole crates -/

omit [Depths] in
theorem attach_of_isStray
    {index : TypeIndex}
    {hidden : List ItemPath}
    (stray : IsStray index hidden block) :
    (attach index hidden block).1 =
      ⟨block, strayTarget index block, false⟩ := by
  have noType : (index.candidates block).findSome? index.lookup? = none :=
    List.findSome?_eq_none_iff.2 fun reading member =>
      (stray reading member).1
  have noHidden : (index.candidates block).find? (· ∈ hidden) = none := by
    rw [List.find?_eq_none]
    intro reading member
    simpa using (stray reading member).2
  simp [attach, noType, noHidden, strayTarget]

/-- A block is attached to a path in the crate, unless none of its readings
is known and it leads out. -/
theorem IsRead.startsWith_target_iff
    (read : IsRead files crate skipsHidden file? declarations tree outline)
    (member : block ∈ tree.impls) :
    (attach (TypeIndex.ofTree tree) tree.hidden block).1.target.startsWith
        (rootPlace crate file?).path = true ↔
      ¬ (IsStray (TypeIndex.ofTree tree) tree.hidden block ∧
        LeadsOut (TypeIndex.ofTree tree) block) := by
  by_cases stray : IsStray (TypeIndex.ofTree tree) tree.hidden block
  · rw [attach_of_isStray stray]
    simp only [stray, true_and]
    exact read.startsWith_strayTarget_iff member
  · refine iff_of_true ?_ (fun leads => stray leads.1)
    rcases attach_cases (TypeIndex.ofTree tree) tree.hidden block with
      ⟨found, first, shape⟩ | ⟨path, known, shape⟩ | ⟨alsoStray, _⟩
    · rw [shape]
      rcases List.exists_of_findSome?_eq_some first with ⟨_, _, finds⟩
      exact read.startsWith_of_mem_types
        (TypeIndex.mem_types_of_lookup? finds)
    · rw [shape]
      exact read.startsWith_of_mem_hidden known
    · exact absurd alsoStray stray

/-- A block that leads out has for its first reading just the names in its
type. -/
theorem IsRead.strayTarget_of_leadsOut
    (read : IsRead files crate skipsHidden file? declarations tree outline)
    (leads : LeadsOut (TypeIndex.ofTree tree) block) :
    strayTarget (TypeIndex.ofTree tree) block =
      ⟨typeNames block.targetText⟩ := by
  rcases leads with ⟨first, rest, names, plain, bound, _⟩
  rw [strayTarget_eq names plain, bound, names, read.root_eq]
  rfl

/-- A record is outside of the crate exactly when it is one of an item of a
documented block that is. -/
theorem IsRead.exists_record_outside_iff
    (read : IsRead files crate skipsHidden file? declarations tree outline)
    (key : Key) :
    (∃ record ∈ (records crate tree).1,
        record.key = key ∧
          ¬ record.path.startsWith (rootPlace crate file?).path = true) ↔
      ∃ attached ∈ (resolve tree).1,
        IsStray (TypeIndex.ofTree tree) tree.hidden attached.block ∧
          LeadsOut (TypeIndex.ofTree tree) attached.block ∧
          key ∈ attached.keys := by
  have listed := exists_record_iff_key crate tree fun other =>
    other = key ∧
      ¬ other.path.startsWith (rootPlace crate file?).path = true
  refine listed.trans ?_
  constructor
  · rintro (⟨key, member, rfl, outside⟩ |
      ⟨attached, kept, key, among, rfl, outside⟩)
    · exact absurd (read.startsWith_of_mem_keys member) outside
    · rcases mem_resolve_iff.1 kept with ⟨block, member, rfl, _⟩
      rcases List.mem_map.1 among with ⟨item, _, rfl⟩
      have beyond : ¬ (attach (TypeIndex.ofTree tree) tree.hidden
          block).1.target.startsWith (rootPlace crate file?).path = true := by
        intro inside
        exact outside (ItemPath.startsWith_push_iff.2 (Or.inr inside))
      rw [read.startsWith_target_iff member, not_not] at beyond
      refine ⟨_, kept, ?_, ?_, among⟩
      · rw [block_attach]
        exact beyond.1
      · rw [block_attach]
        exact beyond.2
  · rintro ⟨attached, kept, stray, leads, among⟩
    rcases mem_resolve_iff.1 kept with ⟨block, member, rfl, _⟩
    rw [block_attach] at stray leads
    have beyond := (not_congr (read.startsWith_target_iff member)).2
      (not_not.2 ⟨stray, leads⟩)
    refine Or.inr ⟨_, kept, key, among, rfl, ?_⟩
    rcases List.mem_map.1 among with ⟨item, _, rfl⟩
    rw [attach_of_isStray stray, read.strayTarget_of_leadsOut leads] at beyond
    dsimp only
    rw [attach_of_isStray stray, read.strayTarget_of_leadsOut leads]
    -- The names of the type are some, so the first of them decides.
    rcases leads with ⟨first, rest, names, _⟩
    rw [names] at beyond ⊢
    intro inside
    exact beyond (ItemPath.startsWith_single_iff.2
      (ItemPath.startsWith_single_iff.1 inside))

/--
Every path that an import of a crate stands for lies in the crate.  The path
that a block is attached to does, too, unless no reading of the block leads
to a type or to something hidden and the first name of its type is imported
first of all as the crate itself under another name.  A record is outside of
the crate exactly when it is one of an item of such a block.
-/
theorem startsWith_root_iff_not_leadsOut
    (read : treeOf files crate skipsHidden file? declarations = .ok tree) :
    (∀ text, Source.parse text = .ok declarations →
      (document files crate skipsHidden text file?).1 =
        .ok (records crate tree).1) ∧
    (∀ module uses name target,
      (TypeIndex.ofTree tree).uses? module = some uses →
        target ∈ uses.get name →
          target.startsWith
            (.single (CrateId.identifier crate.name.written)) = true) ∧
    (∀ block ∈ tree.impls,
      (attach (TypeIndex.ofTree tree) tree.hidden block).1.target.startsWith
          (.single (CrateId.identifier crate.name.written)) = true ↔
        ¬ (IsStray (TypeIndex.ofTree tree) tree.hidden block ∧
          LeadsOut (TypeIndex.ofTree tree) block)) ∧
    (∀ key,
      (∃ record ∈ (records crate tree).1,
          record.key = key ∧
            ¬ record.path.startsWith
              (.single (CrateId.identifier crate.name.written)) = true) ↔
        ∃ attached ∈ (resolve tree).1,
          IsStray (TypeIndex.ofTree tree) tree.hidden attached.block ∧
            LeadsOut (TypeIndex.ofTree tree) attached.block ∧
            key ∈ attached.keys) := by
  rcases exists_isRead read with ⟨outline, isRead⟩
  refine ⟨?_, ?_, ?_, ?_⟩
  · intro text parsed
    rw [document_of_parse parsed, read]
    rfl
  · intro module uses name target known bound
    exact isRead.startsWith_of_mem_uses known bound
  · intro block member
    exact isRead.startsWith_target_iff member
  · intro key
    exact isRead.exists_record_outside_iff key

end

/-! ## A block that leads out -/

section

attribute [local instance] Depths.usual

/-- A crate that imports itself under another name and has a block for one of
its types by way of it. -/
def renamedCrate : List Declaration :=
  [ .importing "use crate as k;" .inherited (.renamed ["crate"] "k"),
    .struct "S" .everywhere .unit,
    .impl ⟨"k::S", none, false, 30⟩
      (some [.function ⟨"f", .everywhere, "fn f()", false, false, []⟩]) ]

/-- The block of the crate. -/
def renamedBlock : Impl where
  modulePath := ⟨["krate"]⟩
  targetText := "k::S"
  traitText := none
  safety := .normal
  items := [⟨"f", .everywhere, [],
    .method ⟨"fn f()", .normal, .notConst, .rust, .inherentMethod⟩⟩]
  docs := []
  file? := none
  start := 30
  order := 0

/-- The tree of the crate. -/
def renamedTree : CrateTree where
  head := ⟨"krate", ⟨["krate"]⟩, .everywhere, []⟩
  info := { isRoot := true, uses := [("k", [⟨["krate"]⟩])] }
  items :=
    [ .importing "use crate as k;" .inherited,
      .struct ⟨"S", ⟨["krate", "S"]⟩, .everywhere, []⟩ [] false,
      .impl 0 ]
  impls := [renamedBlock]
  hidden := []

theorem treeOf_renamedCrate :
    treeOf {} sampleCrate true none renamedCrate = .ok renamedTree := rfl

theorem isStray_renamedBlock :
    IsStray (TypeIndex.ofTree renamedTree) renamedTree.hidden
      renamedBlock := by
  have readings : (TypeIndex.ofTree renamedTree).candidates renamedBlock =
      [⟨["k", "S"]⟩, ⟨["krate", "k", "S"]⟩] := by
    decide
  intro reading member
  rw [readings, List.mem_cons, List.mem_singleton] at member
  refine ⟨?_, List.not_mem_nil⟩
  rcases member with rfl | rfl
  · exact TypeIndex.lookup?_of_imports_eq_nil (by decide)
      (by decide)
  · exact TypeIndex.lookup?_of_imports_eq_nil (by decide)
      (by decide)

theorem leadsOut_renamedBlock :
    LeadsOut (TypeIndex.ofTree renamedTree) renamedBlock := by
  have names : typeNames renamedBlock.targetText = ["k", "S"] := by
    decide
  rw [leadsOut_iff names]
  decide

theorem startsWith_root_iff_not_leadsOut_renamedCrate :
    treeOf {} sampleCrate true none renamedCrate = .ok renamedTree ∧
      ¬ (attach (TypeIndex.ofTree renamedTree) renamedTree.hidden
        renamedBlock).1.target.startsWith (.single "krate") = true := by
  refine ⟨treeOf_renamedCrate, ?_⟩
  have settled := (startsWith_root_iff_not_leadsOut treeOf_renamedCrate).2.2.1
    renamedBlock List.mem_cons_self
  intro inside
  exact settled.1 inside ⟨isStray_renamedBlock, leadsOut_renamedBlock⟩

/-- Blocks can be attached, and records stand, outside of their crate. -/
theorem not_always_in_crate :
    ¬ ∀ files crate skipsHidden file? declarations tree,
      treeOf files crate skipsHidden file? declarations = .ok tree →
        (∀ block ∈ tree.impls,
          (attach (TypeIndex.ofTree tree) tree.hidden
            block).1.target.startsWith
              (.single (CrateId.identifier crate.name.written)) = true) ∧
          ∀ record ∈ (records crate tree).1,
            record.path.startsWith
              (.single (CrateId.identifier crate.name.written)) = true := by
  intro claimed
  have inside := (claimed _ _ _ _ _ _ treeOf_renamedCrate).1 renamedBlock
    List.mem_cons_self
  rw [attach_of_isStray isStray_renamedBlock] at inside
  revert inside
  decide

end

end Tree

end CrateShelf
