import CrateShelf.Proofs.Tree.Reading
import CrateShelf.Proofs.Tree.Visiting
import Mathlib.Data.List.Forall2

/-!
# Imports one by one

The tree of an import stands for as many imports as it has leaves, one of each
leaf with its full path.  A `self` in a group stands for the path of the group.
A path cannot be written so that it ends in `self`, unless it is nothing else.

Main statement: a module that declares the leaves of an import one by one
imports the same under each name, and all of it is in the crate.
-/

namespace CrateShelf

namespace Source.UseTree

/-! ## Leaves -/

/-- The full path of a leaf below some names: `self` stands for these. -/
def leafNames (above names : List String) : List String :=
  if names = ["self"] ∧ above ≠ [] then above else above ++ names

mutual

/-- The leaves of a tree below some names, each with its full path, in the
order in which they are written. -/
def leaves (above : List String) : UseTree → List UseTree
  | .path names => [.path (leafNames above names)]
  | .renamed names newName => [.renamed (leafNames above names) newName]
  | .glob names => [.glob (above ++ names)]
  | .group names trees => leavesOfAll (above ++ names) trees

/-- The leaves of several trees below some names. -/
def leavesOfAll (above : List String) : List UseTree → List UseTree
  | [] => []
  | tree :: rest => leaves above tree ++ leavesOfAll above rest

end

/-- Whether an import of one path can be written like this: no name but the
first may be a `self` at the end, and `::*` has no path in front of `*`. -/
def IsWritable : UseTree → Prop
  | .path names | .renamed names _ =>
    names.getLast? = some "self" → names = ["self"]
  | .glob names => names ≠ ["::"]
  | .group _ _ => False

instance : DecidablePred IsWritable
  | .path names | .renamed names _ =>
    inferInstanceAs
      (Decidable (names.getLast? = some "self" → names = ["self"]))
  | .glob names => inferInstanceAs (Decidable (names ≠ ["::"]))
  | .group _ _ => inferInstanceAs (Decidable False)

theorem dropSelf_of_writable
    {names : List String}
    (writable : names.getLast? = some "self" → names = ["self"]) :
    dropSelf names = names := by
  unfold dropSelf
  split
  · rename_i drops
    rw [Bool.and_eq_true, decide_eq_true_eq, decide_eq_true_eq] at drops
    rw [writable drops.1] at drops
    exact absurd drops.2 (by decide)
  · rfl

/-- A `self` below some names is left out, and otherwise nothing is. -/
theorem dropSelf_leafNames
    {above names : List String}
    (writable : (leafNames above names).getLast? = some "self" →
      leafNames above names = ["self"]) :
    dropSelf (leafNames above names) = dropSelf (above ++ names) := by
  by_cases inGroup : names = ["self"] ∧ above ≠ []
  · rw [dropSelf_of_writable writable, leafNames, if_pos inGroup]
    have longer : 1 < (above ++ names).length := by
      have some_ := List.length_pos_iff.2 inGroup.2
      rw [List.length_append, inGroup.1, List.length_singleton]
      omega
    rw [dropSelf, if_pos, inGroup.1, List.dropLast_concat]
    rw [Bool.and_eq_true, decide_eq_true_eq, decide_eq_true_eq, inGroup.1,
      List.getLast?_concat, ← inGroup.1]
    exact ⟨rfl, longer⟩
  · rw [leafNames, if_neg inGroup]

mutual

/-- A tree binds what its leaves do, one after the other. -/
theorem bindings_eq_flatMap_leaves (above : List String) :
    ∀ tree : UseTree, (∀ leaf ∈ leaves above tree, leaf.IsWritable) →
      bindings above tree = (leaves above tree).flatMap (bindings [])
  | .path names, writable => by
      rw [leaves, List.forall_mem_singleton] at writable
      rw [leaves, List.flatMap_singleton, bindings, bindings, List.nil_append,
        dropSelf_leafNames writable]
  | .renamed names newName, writable => by
      rw [leaves, List.forall_mem_singleton] at writable
      rw [leaves, List.flatMap_singleton, bindings, bindings, List.nil_append,
        dropSelf_leafNames writable]
  | .glob names, _ => by
      rw [leaves, List.flatMap_singleton, bindings, bindings, List.nil_append]
  | .group names trees, writable => by
      rw [leaves] at writable
      rw [leaves, bindings]
      exact bindingsOfAll_eq_flatMap_leavesOfAll _ trees writable

theorem bindingsOfAll_eq_flatMap_leavesOfAll (above : List String) :
    ∀ trees : List UseTree,
      (∀ leaf ∈ leavesOfAll above trees, leaf.IsWritable) →
        bindingsOfAll above trees =
          (leavesOfAll above trees).flatMap (bindings [])
  | [], _ => rfl
  | tree :: rest, writable => by
      rw [leavesOfAll, List.forall_mem_append] at writable
      rw [bindingsOfAll, leavesOfAll, List.flatMap_append,
        bindings_eq_flatMap_leaves above tree writable.1,
        bindingsOfAll_eq_flatMap_leavesOfAll above rest writable.2]

end

end Source.UseTree

namespace UseTable

variable
    {table : UseTable}
    {module root : ItemPath}
    {tree : Source.UseTree}

/-- The imports of a tree are those of its leaves, one after the other. -/
theorem foldl_addTree_leaves
    (writable : ∀ leaf ∈ tree.leaves [], leaf.IsWritable) :
    (tree.leaves []).foldl
        (fun table leaf => table.addTree module root leaf) table =
      table.addTree module root tree := by
  unfold addTree
  rw [Source.UseTree.bindings_eq_flatMap_leaves [] tree writable,
    List.foldl_flatMap]

/-! ## Paths in a table -/

/-- Whether all paths in a table are in a crate. -/
def IsWithin (root : ItemPath) (table : UseTable) : Prop :=
  ∀ entry ∈ table, ∀ path ∈ entry.2, path.startsWith root = true

theorem IsWithin.bind
    (within : IsWithin root table)
    (name : String)
    {target : ItemPath}
    (inside : target.startsWith root = true) :
    IsWithin root (table.bind name target) := by
  induction table with
  | nil =>
      intro entry member path among
      rw [UseTable.bind, List.mem_singleton] at member
      rw [member, List.mem_singleton] at among
      exact among ▸ inside
  | cons entry rest inductionStep =>
      obtain ⟨known, targets⟩ := entry
      rw [IsWithin, List.forall_mem_cons] at within
      rw [UseTable.bind]
      split
      · refine List.forall_mem_cons.2 ⟨?_, within.2⟩
        split
        · exact within.1
        · exact List.forall_mem_append.2
            ⟨within.1, List.forall_mem_singleton.2 inside⟩
      · exact List.forall_mem_cons.2 ⟨within.1, inductionStep within.2⟩

theorem IsWithin.bindNames
    (within : IsWithin root table)
    (inside : module.startsWith root = true)
    (binding : String × List String) :
    IsWithin root (table.bindNames module root binding) := by
  have readings := fun path =>
    startsWith_of_mem_absolutePaths binding.2 module root path inside
  unfold UseTable.bindNames
  generalize absolutePaths binding.2 module root = paths at readings
  induction paths generalizing table with
  | nil => exact within
  | cons path paths inductionStep =>
      rw [List.forall_mem_cons] at readings
      exact inductionStep (within.bind binding.1 readings.1) readings.2

theorem IsWithin.addTree
    (within : IsWithin root table)
    (inside : module.startsWith root = true)
    (tree : Source.UseTree) :
    IsWithin root (table.addTree module root tree) := by
  unfold UseTable.addTree
  generalize tree.bindings [] = bindings
  induction bindings generalizing table with
  | nil => exact within
  | cons binding bindings inductionStep =>
      exact inductionStep (within.bindNames inside binding)

end UseTable

namespace Tree

open Docs (Note)
open Source (Declaration UseTree)
open Visit

variable
    {basis : Basis}
    {place : Place}
    {visitModule : ModuleVisit}
    {uses : UseTable}
    {found later : Findings}

/-! ## The imports of a module -/

section

variable [Depths]

/-- The imports of a module are those of its declarations, in order. -/
theorem Reads.uses_eq
    {files : FileTree}
    {root : ItemPath}
    {skipsHidden : Bool}
    {noted : List (List Note × Declaration)}
    {outline : Outline}
    (reads : Reads files root skipsHidden place noted uses outline) :
    outline.uses =
      noted.foldl
        (fun uses part => usesAfter root place.path uses part.2) uses := by
  induction reads with
  | nil place uses => rfl
  | flat first others inductionStep => exact inductionStep
  | module file? docs shown opens within others _ inductionStep =>
      exact inductionStep

omit [Depths] in
theorem foldl_usesAfter_declarationsWithNotes
    (root path : ItemPath)
    (uses : UseTable)
    (pending : List Note)
    (declarations : List Declaration) :
    (declarationsWithNotes pending declarations).foldl
        (fun uses part => usesAfter root path uses part.2) uses =
      declarations.foldl (usesAfter root path) uses := by
  fun_induction declarationsWithNotes pending declarations generalizing uses
    with
  | case1 pending => rfl
  | case2 pending text rest inductionStep => exact inductionStep uses
  | case3 pending note rest _ inductionStep => exact inductionStep uses
  | case4 pending declaration rest _ _ inductionStep =>
      exact inductionStep (usesAfter root path uses declaration)

theorem uses_eq_of_visitContainer
    {depth : Nat}
    {declarations : List Declaration}
    {docs : List WideText}
    {contents : Contents}
    (yields : on (visitContainer basis depth place declarations) found =
      (.ok (docs, contents), later)) :
    contents.uses =
      declarations.foldl (usesAfter basis.root place.path) [] := by
  obtain ⟨outline, reads, rfl, -⟩ := finds_of_visitContainer yields
  rw [← foldl_usesAfter_declarationsWithNotes _ _ _ []]
  exact reads.uses_eq

omit [Depths] in
theorem isWithin_foldl_usesAfter
    {root path : ItemPath}
    (inside : path.startsWith root = true)
    (within : UseTable.IsWithin root uses)
    (declarations : List Declaration) :
    UseTable.IsWithin root
      (declarations.foldl (usesAfter root path) uses) := by
  induction declarations generalizing uses with
  | nil => exact within
  | cons declaration rest inductionStep =>
      apply inductionStep
      cases declaration with
      | importing text visibility tree => exact within.addTree inside tree
      | _ => exact within

/-- A declaration is an import with a tree. -/
def Imports (declaration : Declaration) (tree : UseTree) : Prop :=
  ∃ text visibility, declaration = .importing text visibility tree

omit [Depths] in
theorem foldl_usesAfter_of_imports
    {root path : ItemPath}
    {singles : List Declaration}
    {trees : List UseTree}
    (imports : List.Forall₂ Imports singles trees)
    (uses : UseTable) :
    singles.foldl (usesAfter root path) uses =
      trees.foldl (fun uses tree => uses.addTree path root tree) uses := by
  induction imports generalizing uses with
  | nil => rfl
  | cons first others inductionStep =>
      obtain ⟨text, visibility, rfl⟩ := first
      exact inductionStep _

/-! ## The rest of a module -/

/-- Whether an item is a line of an import. -/
def Item.isImporting : Item → Bool
  | .importing _ _ => true
  | _ => false

/-- The contents of a module without the lines of its imports. -/
def Contents.withoutImports (contents : Contents) : Contents :=
  { contents with items := contents.items.filter (!·.isImporting) }

omit [Depths] in
theorem withoutImports_prepend (items : List Item) (contents : Contents) :
    (contents.prepend items).withoutImports =
      contents.withoutImports.prepend (items.filter (!·.isImporting)) := by
  simp [Contents.prepend, Contents.withoutImports]

/-- What declarations with notes make of a module, but for the lines of its
imports. -/
def visitBare (basis : Basis) (place : Place) (visitModule : ModuleVisit)
    (uses : UseTable) (noted : List (List Note × Declaration)) :
    Visit Contents :=
  Contents.withoutImports <$> visitParts basis place visitModule uses noted

theorem visitBare_cons
    (notes : List Note)
    (declaration : Declaration)
    (rest : List (List Note × Declaration)) :
    visitBare basis place visitModule uses ((notes, declaration) :: rest) =
      (do
        let made ←
          visitPart basis place visitModule uses notes declaration
        let others ← visitBare basis place visitModule made.2 rest
        return others.prepend (made.1.filter (!·.isImporting))) := by
  simp only [visitBare, visitParts, map_bind, bind_map_left, map_pure,
    withoutImports_prepend]

/-- An import that is not too deep only adds to the imports. -/
theorem visitBare_importing
    {tree : UseTree}
    (notes : List Note)
    (text : String)
    (visibility : Visibility)
    (shallow : tree.depth ≤ Depths.imports)
    (rest : List (List Note × Declaration)) :
    visitBare basis place visitModule uses
        ((notes, .importing text visibility tree) :: rest) =
      (do
        let _ ← remarks notes
        visitBare basis place visitModule
          (uses.addTree place.path basis.root tree) rest) := by
  rw [visitBare_cons]
  simp only [visitPart, bind_assoc]
  refine bind_congr fun _ => ?_
  rw [if_neg (Nat.not_lt.2 shallow)]
  simp [Item.isImporting, Contents.prepend]

omit [Depths] in
/-- What is no note takes the notes in front of it. -/
theorem declarationsWithNotes_cons
    {declaration : Declaration}
    (noNote : declaration.note? = none)
    (pending : List Note)
    (rest : List Declaration) :
    declarationsWithNotes pending (declaration :: rest) =
      (pending, declaration) :: declarationsWithNotes [] rest := by
  cases declaration with
  | note note => cases noNote
  | _ => rfl

theorem visitBare_of_imports
    {singles : List Declaration}
    {trees : List UseTree}
    (imports : List.Forall₂ Imports singles trees)
    (shallow : ∀ tree ∈ trees, tree.depth ≤ Depths.imports)
    (uses : UseTable)
    (after : List Declaration) :
    visitBare basis place visitModule uses
        (declarationsWithNotes [] (singles ++ after)) =
      visitBare basis place visitModule
        (trees.foldl
          (fun uses tree => uses.addTree place.path basis.root tree) uses)
        (declarationsWithNotes [] after) := by
  induction imports generalizing uses with
  | nil => rfl
  | cons first others inductionStep =>
      obtain ⟨text, visibility, rfl⟩ := first
      rw [List.forall_mem_cons] at shallow
      rw [List.cons_append, declarationsWithNotes_cons rfl,
        visitBare_importing [] text visibility shallow.1,
        inductionStep shallow.2]
      rfl

/-- An import among declarations may be replaced by its leaves. -/
theorem visitBare_leaves
    {tree : UseTree}
    {singles : List Declaration}
    (writable : ∀ leaf ∈ tree.leaves [], leaf.IsWritable)
    (imports : List.Forall₂ Imports singles (tree.leaves []))
    (some_ : singles ≠ [])
    (shallow : tree.depth ≤ Depths.imports)
    (leavesShallow : ∀ leaf ∈ tree.leaves [], leaf.depth ≤ Depths.imports)
    (text : String)
    (visibility : Visibility)
    (pending : List Note)
    (uses : UseTable)
    (before after : List Declaration) :
    visitBare basis place visitModule uses
        (declarationsWithNotes pending (before ++ (singles ++ after))) =
      visitBare basis place visitModule uses
        (declarationsWithNotes pending
          (before ++ .importing text visibility tree :: after)) := by
  induction before generalizing pending uses with
  | nil =>
      -- The notes in front of the import go to the first leaf.
      have all :
          (tree.leaves []).foldl
              (fun uses tree => uses.addTree place.path basis.root tree)
              uses =
            uses.addTree place.path basis.root tree :=
        UseTable.foldl_addTree_leaves writable
      rw [List.nil_append, List.nil_append, declarationsWithNotes_cons rfl,
        visitBare_importing pending text visibility shallow, ← all]
      generalize tree.leaves [] = leaves at imports leavesShallow
      cases imports with
      | nil => exact absurd rfl some_
      | cons first others =>
          obtain ⟨text, visibility, rfl⟩ := first
          rw [List.forall_mem_cons] at leavesShallow
          rw [List.cons_append, declarationsWithNotes_cons rfl,
            visitBare_importing pending text visibility leavesShallow.1,
            visitBare_of_imports others leavesShallow.2]
          rfl
  | cons declaration before inductionStep =>
      cases declaration with
      | note note =>
          rcases note with text | text | ⟨_ | _, text⟩
          all_goals exact inductionStep _ _
      | _ =>
          rw [List.cons_append, List.cons_append,
            declarationsWithNotes_cons rfl, declarationsWithNotes_cons rfl,
            visitBare_cons, visitBare_cons]
          refine bind_congr fun made => ?_
          rw [inductionStep]

omit [Depths] in
theorem filterMap_note?_of_imports
    {singles : List Declaration}
    {trees : List UseTree}
    (imports : List.Forall₂ Imports singles trees) :
    singles.filterMap Declaration.note? = [] := by
  induction imports with
  | nil => rfl
  | cons first others inductionStep =>
      obtain ⟨text, visibility, rfl⟩ := first
      exact inductionStep

/-- What is read in a module, but for the lines of its imports. -/
def readBare (basis : Basis) (depth : Nat) (place : Place)
    (declarations : List Declaration) : Visit (List WideText × Contents) :=
  (fun read => (read.1, read.2.withoutImports)) <$>
    visitContainer basis depth place declarations

theorem readBare_succ
    (depth : Nat)
    (declarations : List Declaration) :
    readBare basis (depth + 1) place declarations = (do
      let docs ← innerDocs declarations
      let contents ← visitBare basis place (moduleVisit basis depth place)
        [] (declarationsWithNotes [] declarations)
      return (docs, contents)) := by
  simp only [readBare, visitContainer_succ, visitBare, map_bind,
    bind_map_left, map_pure]

/--
Where an import is replaced by its leaves, one import of each, all of which can
be written so: if the module is read both ways, it imports the same.  It is read
both ways with the same result, but for the lines of the imports, if there are
leaves and nothing is nested too deeply to be read.  And whatever is declared in
a module of a crate, all paths that it imports are in the crate.
-/
theorem readBare_leaves_and_isWithin
    {tree : UseTree}
    {singles : List Declaration}
    (writable : ∀ leaf ∈ tree.leaves [], leaf.IsWritable)
    (imports : List.Forall₂ Imports singles (tree.leaves []))
    (basis : Basis)
    (depth : Nat)
    (place : Place)
    (before after : List Declaration)
    (text : String)
    (visibility : Visibility) :
    let grouped := before ++ .importing text visibility tree :: after
    let apart := before ++ (singles ++ after)
    (∀ found docs contents later otherFound otherDocs other otherLater,
      on (visitContainer basis depth place grouped) found =
          (.ok (docs, contents), later) →
        on (visitContainer basis depth place apart) otherFound =
            (.ok (otherDocs, other), otherLater) →
          other.uses = contents.uses) ∧
    (singles ≠ [] → tree.depth ≤ Depths.imports →
      (∀ leaf ∈ tree.leaves [], leaf.depth ≤ Depths.imports) →
        readBare basis depth place apart =
          readBare basis depth place grouped) ∧
    (place.path.startsWith basis.root = true →
      ∀ declarations found docs contents later,
        on (visitContainer basis depth place declarations) found =
            (.ok (docs, contents), later) →
          ∀ entry ∈ contents.uses, ∀ path ∈ entry.2,
            path.startsWith basis.root = true) := by
  intro grouped apart
  refine ⟨?_, ?_, ?_⟩
  · intro found docs contents later otherFound otherDocs other otherLater
      read otherRead
    rw [uses_eq_of_visitContainer read, uses_eq_of_visitContainer otherRead,
      List.foldl_append, List.foldl_append, List.foldl_append,
      List.foldl_cons, foldl_usesAfter_of_imports imports,
      UseTable.foldl_addTree_leaves writable, usesAfter]
  · intro some_ shallow leavesShallow
    cases depth with
    | zero => rfl
    | succ depth =>
        have sameNotes : innerDocs apart = innerDocs grouped := by
          unfold innerDocs
          simp only [apart, grouped, List.filterMap_append,
            filterMap_note?_of_imports imports, List.nil_append,
            List.filterMap_cons, Declaration.note?]
        rw [readBare_succ, readBare_succ, sameNotes]
        refine bind_congr fun docs => ?_
        rw [visitBare_leaves writable imports some_ shallow leavesShallow
          text visibility]
  · intro inside declarations found docs contents later read
    rw [uses_eq_of_visitContainer read]
    exact isWithin_foldl_usesAfter inside (by simp [UseTable.IsWithin])
      declarations

end

/-! ## An import with groups -/

/-- The tree of `use a::{self as b, c::{self, d as _, *}, e}`. -/
def sampleImport : UseTree :=
  .group ["a"] [.group []
    [ .renamed ["self"] "b",
      .group ["c"] [.group [] [.path ["self"], .renamed ["d"] "_", .glob []]],
      .path ["e"] ]]

/-- The same imports one by one. -/
def sampleSingles : List Declaration :=
  [ .importing "use a as b;" .inherited (.renamed ["a"] "b"),
    .importing "use a::c;" .inherited (.path ["a", "c"]),
    .importing "use a::c::d as _;" .inherited (.renamed ["a", "c", "d"] "_"),
    .importing "use a::c::*;" .inherited (.glob ["a", "c"]),
    .importing "use a::e;" .inherited (.path ["a", "e"]) ]

/-- A module of a crate without files. -/
def importPlace : Place := ⟨⟨["krate", "m"]⟩, none, none⟩

/-- A crate without files. -/
def importBasis : Basis :=
  { files := {}, root := ⟨["krate"]⟩, skipsHidden := true }

attribute [local instance] Depths.usual in
/-- The sample imports are those of the leaves. -/
theorem readBare_leaves_and_isWithin_sampleImport :
    (∀ leaf ∈ sampleImport.leaves [], leaf.IsWritable) ∧
    List.Forall₂ Imports sampleSingles (sampleImport.leaves []) ∧
    readBare importBasis 1 importPlace sampleSingles =
      readBare importBasis 1 importPlace
        [.importing "use a;" .inherited sampleImport] ∧
    ∃ docs contents later,
      on (visitContainer importBasis 1 importPlace sampleSingles) {} =
          (.ok (docs, contents), later) ∧
        contents.uses =
          [ ("b", [⟨["krate", "a"]⟩, ⟨["krate", "m", "a"]⟩]),
            ("c", [⟨["krate", "a", "c"]⟩, ⟨["krate", "m", "a", "c"]⟩]),
            ("*", [⟨["krate", "a", "c"]⟩, ⟨["krate", "m", "a", "c"]⟩]),
            ("e", [⟨["krate", "a", "e"]⟩, ⟨["krate", "m", "a", "e"]⟩]) ] ∧
        ∀ entry ∈ contents.uses, ∀ path ∈ entry.2,
          path.startsWith importBasis.root = true := by
  have writable : ∀ leaf ∈ sampleImport.leaves [], leaf.IsWritable := by
    decide
  have imports :
      List.Forall₂ Imports sampleSingles (sampleImport.leaves []) :=
    .cons ⟨_, _, rfl⟩ <| .cons ⟨_, _, rfl⟩ <| .cons ⟨_, _, rfl⟩ <|
      .cons ⟨_, _, rfl⟩ <| .cons ⟨_, _, rfl⟩ .nil
  obtain ⟨-, same, within⟩ := readBare_leaves_and_isWithin writable imports
    importBasis 1 importPlace [] [] "use a;" .inherited
  refine ⟨writable, imports, ?_, _, _, _, rfl, rfl, ?_⟩
  · exact same (by decide) (by decide) (by decide)
  · exact within (by decide) sampleSingles {} _ _ _ rfl

end Tree

end CrateShelf
