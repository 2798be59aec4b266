import CrateShelf.Proofs.StableSort
import CrateShelf.Proofs.Tree.Search
import CrateShelf.Proofs.Tree.Visiting
import Mathlib.Data.Nat.Basic

/-!
# What `impl` blocks are attached to

A block is attached to the type that the first of its readings leads to that
leads to one.  Whatever order the blocks of a crate are in, they are gone
through by their numbers; those of a crate that was read are numbered as they
were recorded.

Main statement: blocks are attached to types that their readings lead to, or
else to their first readings, and the documented ones are listed by their
numbers, each at most as often as the crate has it.
-/

namespace CrateShelf.Tree

open Docs (Note Remarks)
open Source (Declaration)
open Visit

/-! ## Numbers of blocks -/

/-- The number of a block is how many blocks were recorded before it. -/
def AreNumbered (blocks : List Impl) : Prop :=
  blocks.map (·.order) = List.range blocks.length

/-- A job that ends well numbers the blocks that it records. -/
def Numbers {α : Type} (job : Visit α) : Prop :=
  ∀ found later value,
    on job found = (.ok value, later) →
      AreNumbered found.impls → AreNumbered later.impls

namespace Numbers

variable {α β : Type}

theorem pure (value : α) : Numbers (pure value) := by
  intro found later yielded yields numbered
  cases yields
  exact numbered

theorem throw (error : TreeError) : Numbers (throw error : Visit α) := by
  intro found later yielded yields
  cases yields

theorem bind
    {job : Visit α}
    {next : α → Visit β}
    (first : Numbers job)
    (second : ∀ value, Numbers (next value)) :
    Numbers (job >>= next) := by
  intro found later yielded yields numbered
  obtain ⟨value, middle, done, more⟩ := on_bind_eq_ok_iff.1 yields
  exact second value _ _ _ more (first _ _ _ done numbered)

/-- A job that records no blocks leaves them numbered. -/
theorem of_impls_eq
    {job : Visit α}
    (same : ∀ {found later value},
      on job found = (.ok value, later) → later.impls = found.impls) :
    Numbers job := by
  intro found later yielded yields numbered
  rwa [same yields]

end Numbers

variable
    {basis : Basis}
    {place : Place}
    {visitModule : ModuleVisit}

theorem Adds.same_impls
    {hidden : List ItemPath}
    {found later : Findings}
    (adds : Adds hidden [] found later) :
    later.impls = found.impls := by
  rw [adds.impls_eq, List.append_nil]

theorem numbers_remarks (notes : List Note) : Numbers (remarks notes) :=
  .of_impls_eq fun yields => by
    rw [(eq_of_on_remarks yields).2]

theorem numbers_isSkipped
    (remarks : Remarks)
    (path? : Option ItemPath) :
    Numbers (isSkipped basis remarks path?) := by
  refine .of_impls_eq fun yields => ?_
  unfold isSkipped at yields
  split at yields
  · cases path? with
    | none =>
        cases yields
        rfl
    | some path =>
        cases yields
        rfl
  · cases yields
    rfl

/-- A block that is recorded gets the next number. -/
theorem numbers_recordImpl
    (docs : List WideText)
    (head : Source.ImplHead)
    (body : Option (List Declaration)) :
    Numbers (recordImpl basis place docs head body) := by
  intro found later item yields numbered
  obtain ⟨_, middle, read, rest⟩ := on_bind_eq_ok_iff.1 yields
  obtain ⟨_, rfl⟩ := eq_of_on_assocItems read
  cases rest
  unfold AreNumbered at numbered ⊢
  rw [List.map_append, List.length_append, numbered, List.map_singleton,
    List.length_singleton, List.range_succ]

theorem numbers_visitNamed
    (visits : ∀ remarks name visibility body,
      Numbers (visitModule remarks name visibility body))
    (remarks : Remarks)
    (name : String)
    (declaration : Declaration) :
    Numbers (visitNamed basis place visitModule remarks name declaration) := by
  refine .bind (numbers_isSkipped remarks _) fun skipped => ?_
  split
  · exact .pure _
  · split
    · exact .bind (visits remarks _ _ _) fun _ => .pure _
    · exact .of_impls_eq fun yields => by rw [(eq_of_on_plainItems yields).2]

section

variable [Depths]

theorem numbers_visitPart
    (visits : ∀ remarks name visibility body,
      Numbers (visitModule remarks name visibility body))
    (uses : UseTable)
    (notes : List Note)
    (declaration : Declaration) :
    Numbers (visitPart basis place visitModule uses notes declaration) := by
  refine .bind (numbers_remarks notes) fun remarks => ?_
  cases declaration with
  | importing text visibility tree =>
      dsimp only
      split
      · exact .bind (.throw _) fun _ => .pure _
      · exact .pure _
  | impl head body =>
      refine .bind (numbers_isSkipped remarks none) fun skipped => ?_
      cases skipped with
      | true => exact .pure _
      | false => exact .bind (numbers_recordImpl _ _ _) fun _ => .pure _
  | foreign mark body =>
      refine .bind (.of_impls_eq fun yields => ?_) fun abi =>
        .bind (.of_impls_eq fun yields => ?_) fun _ => .pure _
      · rw [(eq_of_on_abiOf yields).2]
      · exact (of_on_foreignItems yields).2.same_impls
  | note _ | macroCall _ _ | statement => exact .pure _
  | _ =>
      exact .bind (numbers_visitNamed visits remarks _ _) fun _ => .pure _

theorem numbers_visitParts
    (visits : ∀ remarks name visibility body,
      Numbers (visitModule remarks name visibility body))
    (uses : UseTable)
    (noted : List (List Note × Declaration)) :
    Numbers (visitParts basis place visitModule uses noted) := by
  induction noted generalizing uses with
  | nil => exact .pure _
  | cons part rest inductionStep =>
      exact .bind (numbers_visitPart visits uses part.1 part.2) fun made =>
        .bind (inductionStep made.2) fun _ => .pure _

theorem numbers_visitContainer
    (depth : Nat)
    (place : Place)
    (declarations : List Declaration) :
    Numbers (visitContainer basis depth place declarations) := by
  -- The depth bounds how deep modules nest.
  induction depth generalizing place declarations with
  | zero => exact .throw _
  | succ depth inductionStep =>
      rw [visitContainer_succ]
      refine .bind ?_ fun docs => .bind (numbers_visitParts ?_ _ _) fun _ =>
        .pure _
      · unfold innerDocs
        split
        · exact .pure _
        · exact .throw _
      · intro remarks name visibility body
        cases body with
        | some body =>
            exact .bind (inductionStep _ _) fun _ => .pure _
        | none =>
            refine .bind (.of_impls_eq fun yields => ?_) fun loaded => ?_
            · exact (of_on_loadModule yields).2.same_impls
            · cases loaded with
              | none => exact .pure _
              | some file =>
                  exact .bind (inductionStep _ _) fun _ => .pure _

/-- The blocks of a crate are numbered in the order they are recorded in. -/
theorem areNumbered_of_treeOf
    {files : FileTree}
    {crate : CrateId}
    {skipsHidden : Bool}
    {file? : Option DiskPath}
    {declarations : List Declaration}
    {tree : CrateTree}
    (read : treeOf files crate skipsHidden file? declarations = .ok tree) :
    AreNumbered tree.impls := by
  obtain ⟨docs, contents, found, visited, rfl⟩ := exists_visited read
  exact numbers_visitContainer _ _ _ _ _ _ visited rfl

end

/-! ## Blocks and their types -/

/-- The documented blocks of a crate are those of its blocks that do not
belong to a hidden path. -/
theorem mem_resolve_iff_mem_attachAll
    {tree : CrateTree}
    {attached : Attached} :
    attached ∈ (resolve tree).1 ↔
      attached ∈ attachAll tree ∧ attached.target ∉ tree.hidden := by
  rw [fst_resolve, List.mem_filter, isKept, decide_eq_true_eq]

/-- A block that is attached to a type gets it from the first of its readings
that leads to one. -/
theorem exists_reading_of_isResolved
    {tree : CrateTree}
    {attached : Attached}
    (member : attached ∈ attachAll tree)
    (resolved : attached.isResolved = true) :
    ∃ before reading after,
      (TypeIndex.ofTree tree).candidates attached.block =
          before ++ reading :: after ∧
        (∀ earlier ∈ before,
          (TypeIndex.ofTree tree).lookup? earlier = none) ∧
        (TypeIndex.ofTree tree).lookup? reading = some attached.target := by
  obtain ⟨block, _, rfl⟩ := List.mem_map.1 member
  rcases attach_cases (TypeIndex.ofTree tree) tree.hidden block with
    ⟨found, first, shape⟩ | ⟨path, _, shape⟩ | ⟨_, shape⟩
  · rw [shape]
    obtain ⟨before, reading, after, split, finds, fails⟩ :=
      List.findSome?_eq_some_iff.1 first
    exact ⟨before, reading, after, split, fails, finds⟩
  · rw [shape] at resolved
    cases resolved
  · rw [shape] at resolved
    cases resolved

/-- A documented block that is not attached to a type has no reading that
leads to one. -/
theorem isStray_of_not_isResolved
    {tree : CrateTree}
    {attached : Attached}
    (kept : attached ∈ (resolve tree).1)
    (unresolved : attached.isResolved = false) :
    IsStray (TypeIndex.ofTree tree) tree.hidden attached.block ∧
      attached.target =
        strayTarget (TypeIndex.ofTree tree) attached.block := by
  obtain ⟨member, visible⟩ := mem_resolve_iff_mem_attachAll.1 kept
  obtain ⟨block, _, rfl⟩ := List.mem_map.1 member
  rcases attach_cases (TypeIndex.ofTree tree) tree.hidden block with
    ⟨found, _, shape⟩ | ⟨path, isHidden, shape⟩ | ⟨stray, shape⟩
  · rw [shape] at unresolved
    cases unresolved
  · rw [shape] at visible
    exact absurd isHidden visible
  · rw [shape]
    dsimp only
    exact ⟨stray, rfl⟩

/-- All blocks of a crate are attached, sorted stably by their numbers. -/
theorem isStableSort_attachAll (tree : CrateTree) :
    IsStableSort (·.order) tree.impls ((attachAll tree).map (·.block)) := by
  have blocks : (attachAll tree).map (·.block) = tree.orderedImpls := by
    rw [attachAll, List.map_map]
    exact List.map_id'' (block_attach _ _) _
  rw [blocks]
  exact isStableSort_mergeSort (·.order) tree.impls

/-- The documented blocks of a crate are some of those that are attached, in
their order. -/
theorem resolve_sublist (tree : CrateTree) :
    (resolve tree).1.Sublist (attachAll tree) := by
  rw [fst_resolve]
  exact List.filter_sublist

/-- The numbers of the documented blocks ascend. -/
theorem pairwise_order_resolve (tree : CrateTree) :
    ((resolve tree).1.map (·.block.order)).Pairwise (· ≤ ·) := by
  have ascending := (isStableSort_attachAll tree).pairwise
  rw [List.pairwise_map] at ascending
  rw [List.pairwise_map]
  exact ascending.sublist (resolve_sublist tree)

/-- A block is documented at most as often as the crate has it. -/
theorem count_resolve_le (tree : CrateTree) (block : Impl) :
    ((resolve tree).1.map (·.block)).count block ≤
      tree.impls.count block := by
  rw [← (isStableSort_attachAll tree).perm.count_eq]
  exact ((resolve_sublist tree).map _).count_le _

/-- Where no two blocks have the same number, the numbers of the documented
blocks differ. -/
theorem nodup_order_resolve
    {tree : CrateTree}
    (apart : (tree.impls.map (·.order)).Nodup) :
    ((resolve tree).1.map (·.block.order)).Nodup := by
  have all : ((attachAll tree).map (·.block.order)).Nodup := by
    have perm := (isStableSort_attachAll tree).perm.map (·.order)
    rw [List.map_map] at perm
    exact perm.nodup_iff.2 apart
  exact all.sublist ((resolve_sublist tree).map _)

section

variable [Depths]

/--
All blocks of a crate are attached to paths, sorted stably by their numbers.
One that is attached to a type belongs to a type that a reading of it leads to
through at most eight imports, and the readings before lead to none.  The
blocks whose paths are not hidden are documented; one of them that is not
attached to a type has no reading that leads to one, and belongs to its first
reading or to its module.  The documented blocks stay in the order of their
numbers, and each is listed at most as often as the crate has it; their
numbers ascend strictly where no two blocks have the same one, and a crate
that was read has its blocks numbered one after the other.
-/
theorem attached_to_first_and_resolve_ordered (tree : CrateTree) :
    let index := TypeIndex.ofTree tree
    IsStableSort (·.order) tree.impls ((attachAll tree).map (·.block)) ∧
    (∀ attached ∈ attachAll tree, attached.isResolved = true →
      attached.target ∈ index.types ∧
        ∃ before reading after,
          index.candidates attached.block = before ++ reading :: after ∧
            (∀ earlier ∈ before, index.lookup? earlier = none) ∧
            index.Leads TypeIndex.deepestImport reading attached.target) ∧
    (∀ attached, attached ∈ (resolve tree).1 ↔
      attached ∈ attachAll tree ∧ attached.target ∉ tree.hidden) ∧
    (∀ attached ∈ (resolve tree).1, attached.isResolved = false →
      (∀ reading ∈ index.candidates attached.block,
        index.lookup? reading = none) ∧
        attached.target = (index.candidates attached.block).head?.getD
          attached.block.modulePath) ∧
    (resolve tree).1.Sublist (attachAll tree) ∧
    ((resolve tree).1.map (·.block.order)).Pairwise (· ≤ ·) ∧
    (∀ block, ((resolve tree).1.map (·.block)).count block ≤
      tree.impls.count block) ∧
    ((tree.impls.map (·.order)).Nodup →
      ((resolve tree).1.map (·.block.order)).Pairwise (· < ·)) ∧
    ∀ files crate skipsHidden file? declarations,
      treeOf files crate skipsHidden file? declarations = .ok tree →
        tree.impls.map (·.order) = List.range tree.impls.length := by
  intro index
  refine ⟨isStableSort_attachAll tree, ?_,
    fun attached => mem_resolve_iff_mem_attachAll, ?_, resolve_sublist tree,
    pairwise_order_resolve tree, count_resolve_le tree, ?_,
    fun files crate skipsHidden file? declarations => areNumbered_of_treeOf⟩
  · intro attached member resolved
    obtain ⟨before, reading, after, shape, fails, finds⟩ :=
      exists_reading_of_isResolved member resolved
    exact ⟨TypeIndex.mem_types_of_lookup? finds, before, reading, after,
      shape, fails, TypeIndex.leads_of_search finds⟩
  · intro attached kept unresolved
    obtain ⟨stray, same⟩ := isStray_of_not_isResolved kept unresolved
    exact ⟨fun reading member => (stray reading member).1, same⟩
  · intro apart
    exact ((pairwise_order_resolve tree).and
      (nodup_order_resolve apart)).imp fun both => lt_of_le_of_ne both.1 both.2

end

/-! ## A struct with two blocks -/

/-- A crate with a struct and two blocks for it. -/
def pairCrate : List Declaration :=
  [ .struct "S" .everywhere .unit, .impl ⟨"S", none, false, 14⟩ none,
    .impl ⟨"S", some "T", false, 24⟩ none ]

/-- A block of the crate. -/
def pairBlock (traitText : Option String) (start order : Nat) : Impl where
  modulePath := ⟨["krate"]⟩
  targetText := "S"
  traitText
  safety := .normal
  items := []
  docs := []
  file? := none
  start
  order

/-- The tree of the crate, with some blocks. -/
def pairTree (blocks : List Impl) : CrateTree where
  head := ⟨"krate", ⟨["krate"]⟩, .everywhere, []⟩
  info := { isRoot := true }
  items :=
    [.struct ⟨"S", ⟨["krate", "S"]⟩, .everywhere, []⟩ [] false, .impl 0,
      .impl 1]
  impls := blocks
  hidden := []

attribute [local instance] Depths.usual in
/-- The blocks are listed by their numbers where the crate has them the other
way round, too. -/
theorem attached_to_first_and_resolve_ordered_pairCrate :
    let first := pairBlock none 14 0
    let second := pairBlock (some "T") 24 1
    treeOf {} sampleCrate true none pairCrate =
        .ok (pairTree [first, second]) ∧
      ((pairTree [first, second]).impls.map (·.order)).Nodup ∧
      (attachAll (pairTree [first, second])).map (·.block) =
        [first, second] ∧
      ((resolve (pairTree [first, second])).1.map (·.block.order)).Pairwise
        (· < ·) ∧
      (attachAll (pairTree [second, first])).map (·.block) =
        [first, second] ∧
      ((resolve (pairTree [second, first])).1.map (·.block.order)).Pairwise
        (· < ·) := by
  intro first second
  have read : treeOf {} sampleCrate true none pairCrate =
      .ok (pairTree [first, second]) := rfl
  obtain ⟨sorted, _, _, _, _, _, _, strict, numbered⟩ :=
    attached_to_first_and_resolve_ordered (pairTree [first, second])
  obtain ⟨alsoSorted, _, _, _, _, _, _, alsoStrict, _⟩ :=
    attached_to_first_and_resolve_ordered (pairTree [second, first])
  have apart : ((pairTree [first, second]).impls.map (·.order)).Nodup := by
    rw [numbered _ _ _ _ _ read]
    exact List.nodup_range
  have turned :
      (pairTree [first, second]).impls.Perm
        (pairTree [second, first]).impls :=
    List.Perm.swap second first []
  have ascending :
      [first, second].Pairwise fun one other => one.order < other.order := by
    decide
  refine ⟨read, apart, ?_, strict apart, ?_, alsoStrict ?_⟩
  · exact sorted.eq_of_pairwise (List.Perm.refl _) ascending
  · exact alsoSorted.eq_of_pairwise turned ascending
  · exact ((turned.map _).nodup_iff).1 apart

end CrateShelf.Tree
