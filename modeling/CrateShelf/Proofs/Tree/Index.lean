import CrateShelf.Proofs.Association
import CrateShelf.Proofs.Tree.Keys

/-!
# Modules and types by path

What the index of a crate finds at a path: the imports and items of the last
module there, and whether a type of that module stands there.  A search for a
type goes from path to path through imports.

Main statements: a search finds types only, and two indexes that agree on all
paths that a search may come to find the same.
-/

namespace CrateShelf.Tree

/-! ## Modules -/

mutual

/-- The modules in an item, depth first, with their imports and items. -/
def Item.modules : Item → List (ItemPath × UseTable × List Item)
  | .module head info items =>
    (head.path, info.uses, items) :: modulesOfAll items
  | _ => []

/-- The modules in items, one after the other. -/
def modulesOfAll : List Item → List (ItemPath × UseTable × List Item)
  | [] => []
  | item :: rest => item.modules ++ modulesOfAll rest

end

/-- The content of the last of some modules with a path. -/
def lastAt? (path : ItemPath) :
    List (ItemPath × UseTable × List Item) → Option (UseTable × List Item)
  | [] => none
  | (known, content) :: rest =>
    (lastAt? path rest).or (if known = path then some content else none)

theorem lastAt?_append
    (path : ItemPath)
    (modules others : List (ItemPath × UseTable × List Item)) :
    lastAt? path (modules ++ others) =
      (lastAt? path others).or (lastAt? path modules) := by
  induction modules with
  | nil => simp [lastAt?]
  | cons entry modules inductionStep =>
      obtain ⟨known, content⟩ := entry
      rw [List.cons_append, lastAt?, lastAt?, inductionStep, Option.or_assoc]

theorem mem_of_lastAt?
    {path : ItemPath}
    {modules : List (ItemPath × UseTable × List Item)}
    {content : UseTable × List Item}
    (last : lastAt? path modules = some content) :
    (path, content) ∈ modules := by
  induction modules with
  | nil => cases last
  | cons entry modules inductionStep =>
      obtain ⟨known, other⟩ := entry
      rw [lastAt?, Option.or_eq_some_iff] at last
      rcases last with last | ⟨_, last⟩
      · exact List.mem_cons_of_mem _ (inductionStep last)
      · split at last
        · rename_i same
          cases last
          exact same ▸ List.mem_cons_self
        · cases last

theorem exists_key_of_typePath?
    {item : Item}
    {path : ItemPath}
    (typed : typePath? item = some path) :
    ∃ key ∈ item.keys, key.path = path ∧ key.kind.isTraitItem = false := by
  cases item with
  | struct | enum | trait =>
      cases typed
      exact ⟨_, List.mem_cons_self, rfl, rfl⟩
  | _ => cases typed

mutual

/-- The modules in an item have keys, and so has all that is in them. -/
theorem keys_of_mem_modules :
    (item : Item) → ∀ entry ∈ item.modules,
      (∃ key ∈ item.keys, key.path = entry.1) ∧
        keysOfAll entry.2.2 ⊆ item.keys
  | .module head info items, entry, member => by
    rw [Item.modules, List.mem_cons] at member
    rw [Item.keys]
    rcases member with rfl | member
    · exact ⟨⟨_, List.mem_cons_self, rfl⟩, List.subset_cons_self _ _⟩
    · obtain ⟨⟨key, among, same⟩, inside⟩ :=
        keys_of_mem_modulesOfAll items entry member
      exact ⟨⟨key, List.mem_cons_of_mem _ among, same⟩,
        List.Subset.trans inside (List.subset_cons_self _ _)⟩
  | .struct _ _ _, _, member | .enum _ _, _, member
  | .function _ _, _, member | .constant _ _ _, _, member
  | .trait _ _ _, _, member | .macroRules _ _, _, member
  | .importing _ _, _, member | .impl _, _, member => by
    simp [Item.modules] at member

theorem keys_of_mem_modulesOfAll :
    (items : List Item) → ∀ entry ∈ modulesOfAll items,
      (∃ key ∈ keysOfAll items, key.path = entry.1) ∧
        keysOfAll entry.2.2 ⊆ keysOfAll items
  | [], _, member => by cases member
  | item :: rest, entry, member => by
    rw [modulesOfAll, List.mem_append] at member
    rw [keysOfAll]
    rcases member with member | member
    · obtain ⟨⟨key, among, same⟩, inside⟩ :=
        keys_of_mem_modules item entry member
      exact ⟨⟨key, List.mem_append_left _ among, same⟩,
        List.Subset.trans inside (List.subset_append_left _ _)⟩
    · obtain ⟨⟨key, among, same⟩, inside⟩ :=
        keys_of_mem_modulesOfAll rest entry member
      exact ⟨⟨key, List.mem_append_right _ among, same⟩,
        List.Subset.trans inside (List.subset_append_right _ _)⟩

end

/-- Puts modules under their paths, one after the other. -/
def putAll (modules entries : List (ItemPath × UseTable × List Item)) :
    List (ItemPath × UseTable × List Item) :=
  entries.foldl (fun known entry =>
    putModule known entry.1 entry.2.1 entry.2.2) modules

mutual

theorem collectModules_eq
    (modules : List (ItemPath × UseTable × List Item)) :
    (item : Item) → collectModules modules item = putAll modules item.modules
  | .module head info items => by
    rw [collectModules, collectAll_eq, Item.modules]
    rfl
  | .struct _ _ _ | .enum _ _ | .function _ _ | .constant _ _ _
  | .trait _ _ _ | .macroRules _ _ | .importing _ _ | .impl _ => by
    simp [collectModules, Item.modules, putAll]

theorem collectAll_eq
    (modules : List (ItemPath × UseTable × List Item)) :
    (items : List Item) →
      collectAll modules items = putAll modules (modulesOfAll items)
  | [] => by simp [collectAll, modulesOfAll, putAll]
  | item :: rest => by
    rw [collectAll, collectModules_eq modules item, collectAll_eq,
      modulesOfAll, putAll, putAll, putAll, List.foldl_append]

end

theorem lookup_cons_eq_or
    (known path : ItemPath)
    (content : UseTable × List Item)
    (rest : List (ItemPath × UseTable × List Item)) :
    ((known, content) :: rest).lookup path =
      (if known = path then some content else none).or
        (rest.lookup path) := by
  rw [List.lookup_cons]
  by_cases same : known = path
  · simp [same]
  · have different : (path == known) = false := by
      simpa using Ne.symm same
    simp [same, different]

theorem lookup_putModule
    (modules : List (ItemPath × UseTable × List Item))
    (known path : ItemPath)
    (uses : UseTable)
    (items : List Item) :
    (putModule modules known uses items).lookup path =
      (if known = path then some (uses, items) else none).or
        (modules.lookup path) := by
  induction modules with
  | nil => rw [putModule, lookup_cons_eq_or]
  | cons entry modules inductionStep =>
      obtain ⟨other, content⟩ := entry
      rw [putModule]
      split
      · rename_i same
        subst same
        rw [lookup_cons_eq_or, lookup_cons_eq_or]
        split
        · rfl
        · rfl
      · rename_i different
        rw [lookup_cons_eq_or, lookup_cons_eq_or, inductionStep]
        -- At most one of the two entries is about the path.
        by_cases here : other = path
        · have elsewhere : known ≠ path := fun same =>
            different (here.trans same.symm)
          simp [here, elsewhere]
        · simp [here]

theorem lookup_putAll
    (modules entries : List (ItemPath × UseTable × List Item))
    (path : ItemPath) :
    (putAll modules entries).lookup path =
      (lastAt? path entries).or (modules.lookup path) := by
  induction entries generalizing modules with
  | nil => simp [putAll, lastAt?]
  | cons entry entries inductionStep =>
      obtain ⟨known, uses, items⟩ := entry
      have others := inductionStep (putModule modules known uses items)
      rw [lookup_putModule, ← Option.or_assoc] at others
      exact others

theorem map_fst_putModule
    (modules : List (ItemPath × UseTable × List Item))
    (path : ItemPath)
    (uses : UseTable)
    (items : List Item) :
    (putModule modules path uses items).map Prod.fst =
      if path ∈ modules.map Prod.fst then modules.map Prod.fst
      else modules.map Prod.fst ++ [path] := by
  induction modules with
  | nil => rfl
  | cons entry modules inductionStep =>
      obtain ⟨known, content⟩ := entry
      rw [putModule]
      split
      · rename_i same
        simp [same]
      · rename_i different
        rw [List.map_cons, inductionStep, List.map_cons]
        simp only [List.mem_cons, Ne.symm different, false_or]
        split
        · rfl
        · rfl

theorem nodup_putAll
    {modules : List (ItemPath × UseTable × List Item)}
    (apart : (modules.map Prod.fst).Nodup)
    (entries : List (ItemPath × UseTable × List Item)) :
    ((putAll modules entries).map Prod.fst).Nodup := by
  induction entries generalizing modules with
  | nil => exact apart
  | cons entry entries inductionStep =>
      apply inductionStep
      rw [map_fst_putModule]
      split
      · exact apart
      · rename_i absent
        rw [List.nodup_append]
        refine ⟨apart, List.pairwise_singleton _ _, ?_⟩
        rintro first member second alone rfl
        exact absent (List.mem_singleton.1 alone ▸ member)

namespace TypeIndex

theorem lookup_modules_ofTree (tree : CrateTree) (path : ItemPath) :
    (ofTree tree).modules.lookup path = lastAt? path tree.root.modules := by
  have collected : (ofTree tree).modules = putAll [] tree.root.modules :=
    collectModules_eq [] tree.root
  rw [collected, lookup_putAll, List.lookup_nil, Option.or_none]

theorem uses?_ofTree (tree : CrateTree) (path : ItemPath) :
    (ofTree tree).uses? path =
      (lastAt? path tree.root.modules).map (·.1) := by
  rw [uses?, lookup_modules_ofTree]

/-- The types of a crate are those of the last module at each path. -/
theorem mem_types_ofTree (tree : CrateTree) (path : ItemPath) :
    path ∈ (ofTree tree).types ↔
      ∃ owner uses items,
        lastAt? owner tree.root.modules = some (uses, items) ∧
          ∃ item ∈ items, typePath? item = some path := by
  have collected : (ofTree tree).modules = putAll [] tree.root.modules :=
    collectModules_eq [] tree.root
  have apart : ((ofTree tree).modules.map Prod.fst).Nodup :=
    collected ▸ nodup_putAll (by simp) tree.root.modules
  have types : (ofTree tree).types =
      ((ofTree tree).modules.flatMap fun entry =>
        entry.2.2.filterMap typePath?).eraseDups := rfl
  rw [types, List.mem_eraseDups, List.mem_flatMap]
  simp only [Prod.exists, List.mem_filterMap, ← lookup_modules_ofTree,
    lookup_eq_some_iff_mem apart]

/-- A type of a crate is documented by an item of a module. -/
theorem exists_key_of_mem_types
    {tree : CrateTree}
    {path : ItemPath}
    (known : path ∈ (ofTree tree).types) :
    ∃ key ∈ keysOfAll tree.items,
      key.path = path ∧ key.kind.isTraitItem = false := by
  rw [mem_types_ofTree] at known
  obtain ⟨owner, uses, items, last, item, member, typed⟩ := known
  obtain ⟨key, among, same⟩ := exists_key_of_typePath? typed
  have inside : key ∈ keysOfAll items := mem_keysOfAll.2 ⟨item, member, among⟩
  have listed := mem_of_lastAt? last
  rw [CrateTree.root, Item.modules, List.mem_cons] at listed
  rcases listed with shape | listed
  · cases shape
    exact ⟨key, inside, same⟩
  · exact ⟨key, (keys_of_mem_modulesOfAll _ _ listed).2 inside, same⟩

/-! ## Searches -/

/-- The paths that a path stands for by the imports of its module. -/
def imports (index : TypeIndex) (path : ItemPath) : List ItemPath :=
  match path.parent?.bind index.uses?, path.name? with
  | some uses, some name =>
    uses.get name ++ (uses.get UseTable.globName).map (·.push name)
  | _, _ => []

/-- Without steps left, nothing but a type itself is found. -/
theorem search_zero (index : TypeIndex) (path : ItemPath)
    (seen : List ItemPath) :
    index.search 0 path seen =
      (if path ∈ index.types then some path else none, seen) := by
  rw [search]
  split
  · rfl
  · rfl

/-- A path that is no type is looked for behind the imports of its module. -/
theorem search_succ
    (index : TypeIndex)
    (steps : Nat)
    (path : ItemPath)
    (seen : List ItemPath) :
    index.search (steps + 1) path seen =
      if path ∈ index.types then (some path, seen)
      else if path ∈ seen then (none, seen)
      else index.searchAny steps (index.imports path) (path :: seen) := by
  rw [search]
  split
  · rfl
  · split
    · rfl
    · unfold imports
      cases path.parent?.bind index.uses? with
      | none => rw [searchAny]
      | some uses =>
          cases path.name? with
          | none => rw [searchAny]
          | some name => rfl

/-- A path leads to another one through a number of imports at most. -/
inductive Leads (index : TypeIndex) : Nat → ItemPath → ItemPath → Prop where
  | here (steps : Nat) (path : ItemPath) : Leads index steps path path
  | through {steps : Nat} {path next goal : ItemPath}
      (imported : next ∈ index.imports path)
      (further : Leads index steps next goal) :
    Leads index (steps + 1) path goal

/-- What several paths find is found by one of them. -/
theorem exists_of_searchAny
    {index : TypeIndex}
    {steps : Nat}
    {paths seen : List ItemPath}
    {found : ItemPath}
    (finds : (index.searchAny steps paths seen).1 = some found) :
    ∃ path ∈ paths, ∃ seen,
      (index.search steps path seen).1 = some found := by
  induction paths generalizing seen with
  | nil =>
      rw [searchAny] at finds
      cases finds
  | cons path paths inductionStep =>
      rw [searchAny] at finds
      split at finds
      · rename_i searched
        cases finds
        exact ⟨_, List.mem_cons_self, seen, by rw [searched]⟩
      · obtain ⟨other, member, found⟩ := inductionStep finds
        exact ⟨other, List.mem_cons_of_mem _ member, found⟩

/-- A search finds a type. -/
theorem mem_types_of_search
    {index : TypeIndex}
    {steps : Nat}
    {path : ItemPath}
    {seen : List ItemPath}
    {found : ItemPath}
    (finds : (index.search steps path seen).1 = some found) :
    found ∈ index.types := by
  induction steps generalizing path seen found with
  | zero =>
      rw [search_zero] at finds
      split at finds
      · rename_i known
        cases finds
        exact known
      · cases finds
  | succ steps inductionStep =>
      rw [search_succ] at finds
      split at finds
      · rename_i known
        cases finds
        exact known
      · split at finds
        · cases finds
        · obtain ⟨_, _, _, other⟩ := exists_of_searchAny finds
          exact inductionStep other

theorem mem_types_of_lookup?
    {index : TypeIndex}
    {path found : ItemPath}
    (finds : index.lookup? path = some found) :
    found ∈ index.types :=
  mem_types_of_search finds

/-- A type is found at its path. -/
theorem lookup?_of_mem_types
    {index : TypeIndex}
    {path : ItemPath}
    (known : path ∈ index.types) :
    index.lookup? path = some path := by
  rw [lookup?, deepestImport, search_succ, if_pos known]

/-- What is no type and stands for nothing else is not found. -/
theorem lookup?_of_imports_eq_nil
    {index : TypeIndex}
    {path : ItemPath}
    (unknown : path ∉ index.types)
    (alone : index.imports path = []) :
    index.lookup? path = none := by
  rw [lookup?, deepestImport, search_succ, if_neg unknown, alone, searchAny]
  rfl

theorem searchAny_congr
    {index other : TypeIndex}
    {steps : Nat}
    {paths : List ItemPath}
    (each : ∀ path ∈ paths, ∀ seen,
      index.search steps path seen = other.search steps path seen)
    (seen : List ItemPath) :
    index.searchAny steps paths seen = other.searchAny steps paths seen := by
  induction paths generalizing seen with
  | nil => rw [searchAny, searchAny]
  | cons path paths inductionStep =>
      rw [List.forall_mem_cons] at each
      rw [searchAny, searchAny, each.1 seen]
      split
      · rfl
      · exact inductionStep each.2 _

/-- Two indexes find the same from a path if they have the same types and
imports at all paths that it leads to. -/
theorem search_congr
    {index other : TypeIndex}
    {steps : Nat}
    {path : ItemPath}
    (agree : ∀ goal, other.Leads steps path goal →
      (goal ∈ index.types ↔ goal ∈ other.types) ∧
        index.imports goal = other.imports goal)
    (seen : List ItemPath) :
    index.search steps path seen = other.search steps path seen := by
  induction steps generalizing path seen with
  | zero =>
      obtain ⟨sameTypes, _⟩ := agree path (.here 0 path)
      rw [search, search]
      simp only [sameTypes]
  | succ steps inductionStep =>
      obtain ⟨sameTypes, sameImports⟩ := agree path (.here _ path)
      rw [search_succ, search_succ, sameImports]
      simp only [sameTypes]
      split
      · rfl
      · split
        · rfl
        · refine searchAny_congr (fun next imported seen => ?_) _
          exact inductionStep (fun goal leads =>
            agree goal (.through imported leads)) seen

theorem lookup?_congr
    {index other : TypeIndex}
    {path : ItemPath}
    (agree : ∀ goal, other.Leads deepestImport path goal →
      (goal ∈ index.types ↔ goal ∈ other.types) ∧
        index.imports goal = other.imports goal) :
    index.lookup? path = other.lookup? path := by
  rw [lookup?, lookup?, search_congr agree]

end TypeIndex

/-! ## Blocks -/

/-- No reading of a block leads to a type or is known to be hidden. -/
def IsStray (index : TypeIndex) (hidden : List ItemPath) (block : Impl) :
    Prop :=
  ∀ reading ∈ index.candidates block,
    index.lookup? reading = none ∧ reading ∉ hidden

/-- Where a block is documented if no type is found for it. -/
def strayTarget (index : TypeIndex) (block : Impl) : ItemPath :=
  (index.candidates block).head?.getD block.modulePath

/-- A block belongs to the first type that its readings lead to, to a hidden
path if it has none, and otherwise to its first reading. -/
theorem attach_cases
    (index : TypeIndex)
    (hidden : List ItemPath)
    (block : Impl) :
    (∃ found,
      (index.candidates block).findSome? index.lookup? = some found ∧
        (attach index hidden block).1 = ⟨block, found, true⟩) ∨
    (∃ path ∈ hidden, (attach index hidden block).1 = ⟨block, path, false⟩) ∨
    IsStray index hidden block ∧
      (attach index hidden block).1 =
        ⟨block, strayTarget index block, false⟩ := by
  unfold attach
  dsimp only
  cases first : (index.candidates block).findSome? index.lookup? with
  | some found => exact Or.inl ⟨found, rfl, rfl⟩
  | none =>
      cases known : (index.candidates block).find? (· ∈ hidden) with
      | some path =>
          have isHidden : path ∈ hidden := by
            simpa using List.find?_some known
          exact Or.inr (Or.inl ⟨path, isHidden, rfl⟩)
      | none =>
          refine Or.inr (Or.inr ⟨fun reading member => ⟨?_, ?_⟩, rfl⟩)
          · exact List.findSome?_eq_none_iff.1 first reading member
          · have visible := List.find?_eq_none.1 known reading member
            simpa using visible

@[simp]
theorem block_attach
    (index : TypeIndex)
    (hidden : List ItemPath)
    (block : Impl) :
    (attach index hidden block).1.block = block := by
  rcases attach_cases index hidden block with
    ⟨_, _, shape⟩ | ⟨_, _, shape⟩ | ⟨_, shape⟩
  all_goals rw [shape]

/-- Unless it belongs to a hidden path, a block belongs to the first type
that its readings lead to, or to its first reading. -/
theorem target_attach
    {index : TypeIndex}
    {hidden : List ItemPath}
    {block : Impl}
    (visible : (attach index hidden block).1.target ∉ hidden) :
    (attach index hidden block).1.target =
      ((index.candidates block).findSome? index.lookup?).getD
        (strayTarget index block) := by
  rcases attach_cases index hidden block with
    ⟨found, first, shape⟩ | ⟨path, isHidden, shape⟩ | ⟨stray, shape⟩
  · rw [shape, first]
    rfl
  · rw [shape] at visible
    exact absurd isHidden visible
  · have none : (index.candidates block).findSome? index.lookup? = none :=
      List.findSome?_eq_none_iff.2 fun reading member =>
        (stray reading member).1
    rw [shape, none, Option.getD_none]

/-- The documented blocks are those of all that are kept, in their order. -/
theorem fst_resolve {tree : CrateTree} :
    (resolve tree).1 = (attachAll tree).filter (isKept tree) := by
  rw [resolve, attachAll, List.map_map]
  rfl

/-- The documented blocks are those that do not belong to a hidden path. -/
theorem mem_resolve_iff
    {tree : CrateTree}
    {attached : Attached} :
    attached ∈ (resolve tree).1 ↔
      ∃ block ∈ tree.impls,
        attached = (attach (TypeIndex.ofTree tree) tree.hidden block).1 ∧
          attached.target ∉ tree.hidden := by
  simp only [resolve, List.mem_filter, List.mem_map, isKept,
    decide_eq_true_eq, CrateTree.mem_orderedImpls]
  constructor
  · rintro ⟨⟨_, ⟨block, member, rfl⟩, rfl⟩, visible⟩
    exact ⟨block, member, rfl, visible⟩
  · rintro ⟨block, member, same, visible⟩
    exact ⟨⟨_, ⟨block, member, rfl⟩, same.symm⟩, visible⟩

/-- A documented block belongs to a type of the crate or is stray. -/
theorem mem_types_or_isStray
    {tree : CrateTree}
    {attached : Attached}
    (kept : attached ∈ (resolve tree).1) :
    attached.target ∈ (TypeIndex.ofTree tree).types ∨
      IsStray (TypeIndex.ofTree tree) tree.hidden attached.block ∧
        attached.target =
          strayTarget (TypeIndex.ofTree tree) attached.block := by
  obtain ⟨block, member, same, visible⟩ := mem_resolve_iff.1 kept
  subst same
  rcases attach_cases (TypeIndex.ofTree tree) tree.hidden block with
    ⟨found, first, shape⟩ | ⟨path, isHidden, shape⟩ | ⟨stray, shape⟩
  · rw [shape]
    obtain ⟨reading, _, finds⟩ := List.exists_of_findSome?_eq_some first
    exact Or.inl (TypeIndex.mem_types_of_lookup? finds)
  · rw [shape] at visible
    exact absurd isHidden visible
  · rw [shape]
    dsimp only
    exact Or.inr ⟨stray, rfl⟩

end CrateShelf.Tree
