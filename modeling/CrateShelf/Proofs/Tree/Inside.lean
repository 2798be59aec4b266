import CrateShelf.Proofs.Tree.Thinning

/-!
# What stands in the modules of a crate

The declarations that a visit comes to, in whatever module they stand: those
of the file itself and those of every module that is opened on the way.

Main statements: every path in the imports of a module is a reading of one
that is declared there, and every `impl` block is made of one that is
declared in a module of the crate.
-/

namespace CrateShelf

/-! ## Import tables -/

namespace UseTable

variable
    {table : UseTable}
    {name other : String}
    {target path : ItemPath}

theorem get_cons
    (known : String)
    (targets : List ItemPath)
    (rest : UseTable)
    (name : String) :
    get ((known, targets) :: rest) name =
      if known = name then targets else get rest name := by
  rw [get, List.lookup_cons]
  by_cases same : known = name
  · simp [same]
  · have different : (name == known) = false := by
      simpa using Ne.symm same
    rw [different, if_neg same]
    rfl

/-- What a name may stand for after one more path was bound. -/
theorem mem_get_bind :
    target ∈ (table.bind other path).get name ↔
      target ∈ table.get name ∨ other = name ∧ target = path := by
  induction table with
  | nil =>
      rw [bind, get_cons]
      by_cases same : other = name
      · simp [same, get]
      · simp [same, get]
  | cons entry rest inductionStep =>
      rcases entry with ⟨known, targets⟩
      rw [bind]
      split
      · rename_i same
        subst same
        rw [get_cons, get_cons]
        by_cases here : known = name
        · -- A path that is bound already is not bound again.
          by_cases bound : path ∈ targets
          · simp only [here, bound, if_true]
            constructor
            · exact Or.inl
            · rintro (member | ⟨_, rfl⟩)
              · exact member
              · exact bound
          · simp [here, bound]
        · simp [here]
      · rename_i different
        rw [get_cons, get_cons]
        by_cases here : known = name
        · have elsewhere : other ≠ name := fun same =>
            different (here.trans same.symm)
          simp [here, elsewhere]
        · simpa only [here, if_false] using inductionStep

/-- What a name may stand for after another one was bound in a module. -/
theorem mem_get_bindNames
    {module root : ItemPath}
    {binding : String × List String} :
    target ∈ (table.bindNames module root binding).get name ↔
      target ∈ table.get name ∨
        binding.1 = name ∧
          target ∈ absolutePaths binding.2 module root := by
  unfold bindNames
  generalize absolutePaths binding.2 module root = paths
  induction paths generalizing table with
  | nil => simp
  | cons path paths inductionStep =>
      rw [List.foldl_cons, inductionStep, mem_get_bind, List.mem_cons,
        or_assoc, ← and_or_left]

/-- What a name may stand for after an import of a module. -/
theorem mem_get_addTree
    {module root : ItemPath}
    {tree : Source.UseTree} :
    target ∈ (table.addTree module root tree).get name ↔
      target ∈ table.get name ∨
        ∃ binding ∈ tree.bindings [],
          binding.1 = name ∧
            target ∈ absolutePaths binding.2 module root := by
  unfold addTree
  generalize tree.bindings [] = bindings
  induction bindings generalizing table with
  | nil => simp
  | cons binding bindings inductionStep =>
      rw [List.foldl_cons, inductionStep, mem_get_bindNames, or_assoc]
      simp only [List.mem_cons, exists_eq_or_imp]

end UseTable

namespace Tree

open Docs (Note)
open Source (Declaration)

/-! ## Declarations -/

variable [Depths]

/-- A declaration with its notes stands among others or in a module that is
opened there. -/
inductive Includes (files : FileTree) (skipsHidden : Bool) :
    Place → List (List Note × Declaration) →
      Place → List Note × Declaration → Prop where
  | here {place : Place} {noted : List (List Note × Declaration)}
      {part : List Note × Declaration} (member : part ∈ noted) :
    Includes files skipsHidden place noted place part
  | inside {place inner deep : Place}
      {noted : List (List Note × Declaration)} {notes : List Note}
      {name : String} {visibility : Visibility}
      {body : Option (List Declaration)} {declarations : List Declaration}
      {part : List Note × Declaration}
      (member : (notes, .module name visibility body) ∈ noted)
      (shown : isShown skipsHidden notes = true)
      (opens : opened? files place name (said notes).file? body =
        some (inner, declarations))
      (within : Includes files skipsHidden inner
        (declarationsWithNotes [] declarations) deep part) :
    Includes files skipsHidden place noted deep part

variable
    {files : FileTree}
    {root : ItemPath}
    {skipsHidden : Bool}
    {place inner : Place}
    {noted : List (List Note × Declaration)}
    {first part : List Note × Declaration}
    {notes : List Note}
    {declaration : Declaration}
    {uses : UseTable}
    {share : Share}
    {outline : Outline}

theorem Includes.of_rest
    (includes : Includes files skipsHidden place noted inner part) :
    Includes files skipsHidden place (first :: noted) inner part := by
  cases includes with
  | here member => exact .here (List.mem_cons_of_mem first member)
  | inside member shown opens within =>
      exact .inside (List.mem_cons_of_mem first member) shown opens within

/-- A module that is opened lies below the one that it is declared in. -/
theorem Includes.startsWith
    (includes : Includes files skipsHidden place noted inner part) :
    inner.path.startsWith place.path = true := by
  induction includes with
  | here member => exact ItemPath.startsWith_refl _
  | inside member shown opens within inductionStep =>
      rw [path_of_opened? opens] at inductionStep
      exact ItemPath.startsWith_trans inductionStep
        (ItemPath.startsWith_push _ _)

/-- A path is a reading of an import that is declared for a name in a module
with some path. -/
def IsImported (files : FileTree) (root : ItemPath) (skipsHidden : Bool)
    (place : Place) (noted : List (List Note × Declaration))
    (module : ItemPath) (name : String) (target : ItemPath) : Prop :=
  ∃ inner notes text visibility tree,
    Includes files skipsHidden place noted inner
        (notes, .importing text visibility tree) ∧
      inner.path = module ∧
      ∃ binding ∈ tree.bindings [],
        binding.1 = name ∧ target ∈ absolutePaths binding.2 module root

theorem IsImported.of_rest
    {module target : ItemPath}
    {name : String}
    (imported : IsImported files root skipsHidden place noted module name
      target) :
    IsImported files root skipsHidden place (first :: noted) module name
      target := by
  rcases imported with
    ⟨inner, notes, text, visibility, tree, includes, same, binding⟩
  exact ⟨inner, notes, text, visibility, tree, includes.of_rest, same,
    binding⟩

theorem IsImported.in_module
    {name : String}
    {visibility : Visibility}
    {body : Option (List Declaration)}
    {declarations : List Declaration}
    {module target : ItemPath}
    {bound : String}
    (shown : isShown skipsHidden notes = true)
    (opens : opened? files place name (said notes).file? body =
      some (inner, declarations))
    (imported : IsImported files root skipsHidden inner
      (declarationsWithNotes [] declarations) module bound target) :
    IsImported files root skipsHidden place
      ((notes, .module name visibility body) :: noted) module bound
      target := by
  rcases imported with
    ⟨deep, notes, text, visibility, tree, includes, same, binding⟩
  exact ⟨deep, notes, text, visibility, tree,
    .inside List.mem_cons_self shown opens includes, same, binding⟩

omit [Depths] in
theorem mem_usesAfter_iff
    {path target : ItemPath}
    {name : String} :
    target ∈ (usesAfter root path uses declaration).get name ↔
      target ∈ uses.get name ∨
        ∃ text visibility tree,
          declaration = .importing text visibility tree ∧
            ∃ binding ∈ tree.bindings [],
              binding.1 = name ∧
                target ∈ absolutePaths binding.2 path root := by
  cases declaration with
  | importing text visibility tree =>
      rw [usesAfter, UseTable.mem_get_addTree]
      constructor
      · rintro (known | bound)
        · exact Or.inl known
        · exact Or.inr ⟨text, visibility, tree, rfl, bound⟩
      · rintro (known | ⟨_, _, _, same, bound⟩)
        · exact Or.inl known
        · cases same
          exact Or.inr bound
  | _ => simp [usesAfter]

/-- The imports of a module are those it had before, and those that are
declared in it. -/
theorem Reads.mem_uses
    {name : String}
    {target : ItemPath}
    (reads : Reads files root skipsHidden place noted uses outline)
    (member : target ∈ outline.uses.get name) :
    target ∈ uses.get name ∨
      IsImported files root skipsHidden place noted place.path name
        target := by
  induction reads with
  | nil place uses => exact Or.inl member
  | flat contributes others inductionStep =>
      rcases inductionStep member with known | imported
      · rcases mem_usesAfter_iff.1 known with
          before | ⟨text, visibility, tree, rfl, bound⟩
        · exact Or.inl before
        · exact Or.inr ⟨_, _, text, visibility, tree,
            .here List.mem_cons_self, rfl, bound⟩
      · exact Or.inr imported.of_rest
  | module file? docs shown opens within others _ inductionStep =>
      rcases inductionStep member with before | imported
      · exact Or.inl before
      · exact Or.inr imported.of_rest

/-- A module that is not opened has no imports, and nothing else makes
modules by itself. -/
theorem Contributes.uses_eq_nil
    (contributes : Contributes files skipsHidden place notes declaration
      share)
    {entry : ItemPath × UseTable × List Item}
    (member : entry ∈ modulesOfAll share.items) :
    entry.2.1 = [] := by
  rcases mem_modulesOfAll.1 member with ⟨item, made, among⟩
  cases contributes with
  | hiddenImpl | mute | hidden => cases made
  | importing | impl =>
      rw [List.mem_singleton.1 made, Item.modules] at among
      · cases among
      all_goals simp
  | foreign mark body =>
      rcases List.mem_map.1 made with ⟨part, _, rfl⟩
      simp [Item.modules] at among
  | unopened name visibility body docs shown closed =>
      rw [List.mem_singleton.1 made, Item.modules, modulesOfAll,
        List.mem_singleton] at among
      rw [among]
  | plain declaration name named noModule shown =>
      rw [(modules_of_mem_plainItemsOf made).1] at among
      cases among

/-- The imports of every module in a crate are declared in it. -/
theorem Reads.isImported_of_mem_modules
    (reads : Reads files root skipsHidden place noted uses outline)
    {entry : ItemPath × UseTable × List Item}
    (member : entry ∈ modulesOfAll outline.items)
    {name : String}
    {target : ItemPath}
    (bound : target ∈ entry.2.1.get name) :
    IsImported files root skipsHidden place noted entry.1 name target := by
  induction reads with
  | nil place uses => cases member
  | flat contributes others inductionStep =>
      rw [Outline.add, modulesOfAll_append, List.mem_append] at member
      rcases member with here | there
      · rw [contributes.uses_eq_nil here] at bound
        cases bound
      · exact (inductionStep there).of_rest
  | module file? docs shown opens within others insideStep inductionStep =>
      rw [Outline.add, modulesOfAll_append, List.mem_append, modulesOfAll,
        modulesOfAll, Item.modules, List.append_nil, List.mem_cons] at member
      rcases member with (rfl | deeper) | there
      · rcases within.mem_uses bound with none | imported
        · cases none
        · rw [path_of_opened? opens] at imported
          exact imported.in_module shown opens
      · exact (insideStep deeper).in_module shown opens
      · exact (inductionStep there).of_rest

/-- An `impl` block is made of one that is declared in a module. -/
def IsDeclared (files : FileTree) (skipsHidden : Bool) (place : Place)
    (noted : List (List Note × Declaration)) (block : Impl) : Prop :=
  ∃ inner notes head body order,
    Includes files skipsHidden place noted inner
        (notes, .impl head body) ∧
      isShown skipsHidden notes = true ∧
      block = implOf skipsHidden inner notes order head body

theorem IsDeclared.of_rest
    {block : Impl}
    (declared : IsDeclared files skipsHidden place noted block) :
    IsDeclared files skipsHidden place (first :: noted) block := by
  rcases declared with ⟨inner, notes, head, body, order, includes, made⟩
  exact ⟨inner, notes, head, body, order, includes.of_rest, made⟩

/-- Every `impl` block of a crate is declared in it. -/
theorem Reads.isDeclared
    (reads : Reads files root skipsHidden place noted uses outline)
    {block : Impl}
    (member : block ∈ outline.impls) :
    IsDeclared files skipsHidden place noted block := by
  induction reads with
  | nil place uses => cases member
  | flat contributes others inductionStep =>
      rw [Outline.add, List.mem_append] at member
      rcases member with here | there
      · cases contributes with
        | impl head body order shown =>
            exact ⟨_, _, head, body, order, .here List.mem_cons_self, shown,
              List.mem_singleton.1 here⟩
        | _ => cases here
      · exact (inductionStep there).of_rest
  | module file? docs shown opens within others insideStep inductionStep =>
      rw [Outline.add, List.mem_append] at member
      rcases member with here | there
      · rcases insideStep here with
          ⟨deep, notes, head, body, order, includes, made⟩
        exact ⟨deep, notes, head, body, order,
          .inside List.mem_cons_self shown opens includes, made⟩
      · exact (inductionStep there).of_rest

/-! ## Crates -/

variable
    {crate : CrateId}
    {file? : Option DiskPath}
    {declarations : List Declaration}
    {tree : CrateTree}

/-- The imports that a crate's index knows of a module are declared there. -/
theorem IsRead.isImported
    (read : IsRead files crate skipsHidden file? declarations tree outline)
    {module target : ItemPath}
    {name : String}
    (known : (TypeIndex.ofTree tree).uses? module = some uses)
    (bound : target ∈ uses.get name) :
    IsImported files (rootPlace crate file?).path skipsHidden
      (rootPlace crate file?) (declarationsWithNotes [] declarations) module
      name target := by
  rw [TypeIndex.uses?_ofTree, Option.map_eq_some_iff] at known
  rcases known with ⟨⟨_, items⟩, last, rfl⟩
  have listed := mem_of_lastAt? last
  rw [CrateTree.root, Item.modules, List.mem_cons, read.items_eq] at listed
  rcases listed with top | listed
  · cases top
    rw [read.uses_eq] at bound
    rcases read.reads.mem_uses bound with none | imported
    · cases none
    · rw [read.path_eq]
      exact imported
  · exact read.reads.isImported_of_mem_modules listed bound

end Tree

end CrateShelf
