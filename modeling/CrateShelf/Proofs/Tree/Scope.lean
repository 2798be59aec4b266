import CrateShelf.Proofs.Tree.Removal

/-!
# Names in the module of a block

The type that an `impl` block is about is named in the module of the block: by
an import, or as a type that the module declares itself.  The index of a crate
has one module for each path, the last one, and knows the imports and types of
this one only.

Main statements: a block whose type goes through a name that is imported once
belongs to what this stands for, if it keeps the name; under another name,
other paths come first.  A block for a type of its own module belongs to this
type exactly when the last module with the path declares it, too, and imports
nothing of its name that leads elsewhere.
-/

namespace CrateShelf.Tree

open Source (Declaration)

/-! ## The first path that leads to a type -/

/-- The first of some paths that leads to a type leads to this one. -/
def FirstLeadsTo (index : TypeIndex) (paths : List ItemPath)
    (goal : ItemPath) : Prop :=
  ∃ before path after,
    paths = before ++ path :: after ∧
      (∀ earlier ∈ before, index.lookup? earlier = none) ∧
      index.lookup? path = some goal

theorem firstLeadsTo_iff
    {index : TypeIndex}
    {paths : List ItemPath}
    {goal : ItemPath} :
    FirstLeadsTo index paths goal ↔
      paths.findSome? index.lookup? = some goal := by
  rw [FirstLeadsTo, List.findSome?_eq_some_iff]
  constructor
  · rintro ⟨before, path, after, shape, earlier, leads⟩
    exact ⟨before, path, after, shape, leads, earlier⟩
  · rintro ⟨before, path, after, shape, leads, earlier⟩
    exact ⟨before, path, after, shape, earlier, leads⟩

/-- A path that leads nowhere may be left out. -/
theorem findSome?_filter_ne
    {search : ItemPath → Option ItemPath}
    {lost : ItemPath}
    (nowhere : search lost = none)
    (paths : List ItemPath) :
    (paths.filter fun path => !path == lost).findSome? search =
      paths.findSome? search := by
  induction paths with
  | nil => rfl
  | cons path paths inductionStep =>
      rw [List.filter_cons, List.findSome?_cons]
      by_cases same : path = lost
      · simp [same, nowhere, inductionStep]
      · simp [same, List.findSome?_cons, inductionStep]

/-- Repeated paths do not matter for what is found first. -/
theorem findSome?_eraseDups (search : ItemPath → Option ItemPath) :
    (paths : List ItemPath) →
      paths.eraseDups.findSome? search = paths.findSome? search
  | [] => rfl
  | path :: paths => by
    rw [List.eraseDups_cons, List.findSome?_cons, List.findSome?_cons]
    cases found : search path with
    | some goal => rfl
    | none =>
        rw [findSome?_eraseDups search, findSome?_filter_ne found]
termination_by paths => paths.length
decreasing_by
  exact Nat.lt_succ_of_le (List.length_filter_le _ _)

/-! ## Readings -/

variable
    {index : TypeIndex}
    {hidden : List ItemPath}
    {block : Impl}
    {uses : UseTable}
    {name : String}
    {rest : List String}
    {goal target : ItemPath}

/-- A block belongs to a type exactly when the first of its readings that
leads to a type leads there. -/
theorem attach_eq_iff_findSome? :
    (attach index hidden block).1 = ⟨block, goal, true⟩ ↔
      (index.candidates block).findSome? index.lookup? = some goal := by
  unfold attach
  dsimp only
  cases first : (index.candidates block).findSome? index.lookup? with
  | some found => simp
  | none =>
      cases (index.candidates block).find? (· ∈ hidden) with
      | some path => simp
      | none => simp

/-- What a block without an anchor is about is looked for through the imports
of its first name, then in its module, then through imports of everything and
last from the root. -/
theorem findSome?_candidates
    (names : typeNames block.targetText = name :: rest)
    (free : isAnchor name = false)
    (scope : index.uses? block.modulePath = some uses) :
    (index.candidates block).findSome? index.lookup? =
      ((uses.get name).map (fun target =>
          target.pop.join ⟨name :: rest⟩) ++
        block.modulePath.join ⟨name :: rest⟩ ::
          ((uses.get UseTable.globName).map (·.join ⟨name :: rest⟩) ++
            [index.root.join ⟨name :: rest⟩])).findSome? index.lookup? := by
  unfold TypeIndex.candidates
  simp only [names, free, Bool.false_eq_true, if_false, scope,
    Option.getD_some, findSome?_eraseDups, List.append_assoc,
    List.cons_append, List.nil_append]

/-- One more name behind a path. -/
theorem join_singleton (path : ItemPath) :
    path.join ⟨[name]⟩ = path.push name := rfl

/-- The path of a type that is imported under its own name is the path that
the import stands for, with further names behind it. -/
theorem pop_join_of_name?
    (kept : target.name? = some name) :
    target.pop.join ⟨name :: rest⟩ = target.join ⟨rest⟩ := by
  rcases List.eq_nil_or_concat' target.segments with
    empty | ⟨front, last, shape⟩
  · simp [ItemPath.name?, empty] at kept
  · rw [ItemPath.name?, shape, List.getLast?_concat] at kept
    cases kept
    simp [ItemPath.join, ItemPath.pop, shape]

/-- A name that is imported once leads to what the import stands for, unless
the module has a type of this name itself. -/
theorem lookup?_push_of_import
    {module : ItemPath}
    (scope : index.uses? module = some uses)
    (bound : uses.get name = [target])
    (known : target ∈ index.types) :
    index.lookup? (module.push name) =
      some (if module.push name ∈ index.types then module.push name
        else target) := by
  split
  · rename_i own
    exact TypeIndex.lookup?_of_mem_types own
  · rename_i foreign
    have imports : index.imports (module.push name) =
        target :: (uses.get UseTable.globName).map (·.push name) := by
      rw [TypeIndex.imports, ItemPath.parent?_push, ItemPath.name?_push,
        Option.bind_some, scope]
      dsimp only
      rw [bound, List.singleton_append]
    have found : index.search 7 target [module.push name] =
        (some target, [module.push name]) := by
      rw [TypeIndex.search_succ, if_pos known]
    rw [TypeIndex.lookup?, TypeIndex.deepestImport, TypeIndex.search_succ,
      if_neg foreign, if_neg List.not_mem_nil, imports, TypeIndex.searchAny,
      found]

/-! ## Names that are imported -/

variable
    {tree : CrateTree}
    {items : List Item}

/--
A block in a module that imports the first name of its type as one path
belongs to the type there if this keeps the name.  Otherwise the new name
takes the place of the last one, and what this path leads to comes first; then
comes the path below the module, which leads to the type if the new name is
all that the block names.
-/
theorem attach_of_single_import
    (last : lastAt? block.modulePath tree.root.modules = some (uses, items))
    (names : typeNames block.targetText = name :: rest)
    (free : isAnchor name = false)
    (bound : uses.get name = [target])
    (known : target.join ⟨rest⟩ ∈ (TypeIndex.ofTree tree).types) :
    let index := TypeIndex.ofTree tree
    let attached := (attach index tree.hidden block).1
    (target.name? = some name →
      attached = ⟨block, target.join ⟨rest⟩, true⟩) ∧
    (rest = [] →
      attached = ⟨block,
        (index.lookup? (target.pop.push name)).getD
          (if block.modulePath.push name ∈ index.types then
            block.modulePath.push name
          else target), true⟩) ∧
    (attached = ⟨block, target.join ⟨rest⟩, true⟩ ↔
      FirstLeadsTo index
        (target.pop.join ⟨name :: rest⟩ ::
          block.modulePath.join ⟨name :: rest⟩ ::
            ((uses.get UseTable.globName).map (·.join ⟨name :: rest⟩) ++
              [tree.head.path.join ⟨name :: rest⟩]))
        (target.join ⟨rest⟩)) := by
  intro index attached
  have scope : index.uses? block.modulePath = some uses := by
    rw [TypeIndex.uses?_ofTree, last]
    rfl
  have readings := findSome?_candidates names free scope
  rw [bound, List.map_cons, List.map_nil, List.singleton_append] at readings
  have settled : ∀ goal, attached = ⟨block, goal, true⟩ ↔ _ := fun goal =>
    attach_eq_iff_findSome?.trans (by rw [readings])
  refine ⟨?_, ?_, ?_⟩
  · intro kept
    rw [settled, List.findSome?_cons, pop_join_of_name? kept,
      TypeIndex.lookup?_of_mem_types known]
  · rintro rfl
    have alone : target.join ⟨[]⟩ = target := ItemPath.join_empty target
    rw [alone] at known
    rw [settled, List.findSome?_cons, List.findSome?_cons, join_singleton,
      join_singleton, lookup?_push_of_import scope bound known]
    cases index.lookup? (target.pop.push name) with
    | some goal => rfl
    | none => rfl
  · rw [settled, firstLeadsTo_iff]
    rfl

/-- A crate that imports a module twice, once under another name, and has a
block for the type of the module by way of each. -/
def nicknameCrate : List Declaration :=
  [ .module "a" .everywhere (some
      [ .module "m" .everywhere (some [.struct "T" .everywhere .unit]) ]),
    .importing "use a::m;" .inherited (.path ["a", "m"]),
    .importing "use a::m as h;" .inherited (.renamed ["a", "m"] "h"),
    .impl ⟨"m::T", none, false, 67⟩
      (some [.function ⟨"f", .everywhere, "fn f()", false, false, []⟩]),
    .impl ⟨"h::T", none, false, 95⟩
      (some [.function ⟨"g", .everywhere, "fn g()", false, false, []⟩]) ]

/-- A block of the crate, given its type, its function and its place. -/
def nicknameBlock (targetText name : String) (start order : Nat) : Impl where
  modulePath := ⟨["krate"]⟩
  targetText
  traitText := none
  safety := .normal
  items := [⟨name, .everywhere, [],
    .method ⟨"fn " ++ name ++ "()", .normal, .notConst, .rust,
      .inherentMethod⟩⟩]
  docs := []
  file? := none
  start
  order

/-- What the root of the crate imports. -/
def nicknameUses : UseTable :=
  [("m", [⟨["krate", "a", "m"]⟩]), ("h", [⟨["krate", "a", "m"]⟩])]

/-- The items at the root of the crate. -/
def nicknameItems : List Item :=
  [ .module ⟨"a", ⟨["krate", "a"]⟩, .everywhere, []⟩ {}
      [ .module ⟨"m", ⟨["krate", "a", "m"]⟩, .everywhere, []⟩ {}
          [ .struct ⟨"T", ⟨["krate", "a", "m", "T"]⟩, .everywhere, []⟩ []
              false ] ],
    .importing "use a::m;" .inherited,
    .importing "use a::m as h;" .inherited,
    .impl 0,
    .impl 1 ]

/-- The tree of the crate. -/
def nicknameTree : CrateTree where
  head := ⟨"krate", ⟨["krate"]⟩, .everywhere, []⟩
  info := { isRoot := true, uses := nicknameUses }
  items := nicknameItems
  impls := [nicknameBlock "m::T" "f" 67 0, nicknameBlock "h::T" "g" 95 1]
  hidden := []

section

attribute [local instance] Depths.usual

theorem treeOf_nicknameCrate :
    treeOf {} sampleCrate true none nicknameCrate = .ok nicknameTree := rfl

theorem mem_types_nicknameTree :
    ⟨["krate", "a", "m", "T"]⟩ ∈ (TypeIndex.ofTree nicknameTree).types := by
  decide

theorem attach_of_single_import_nicknameCrate :
    treeOf {} sampleCrate true none nicknameCrate = .ok nicknameTree ∧
      (attach (TypeIndex.ofTree nicknameTree) nicknameTree.hidden
          (nicknameBlock "m::T" "f" 67 0)).1 =
        ⟨nicknameBlock "m::T" "f" 67 0, ⟨["krate", "a", "m", "T"]⟩, true⟩ := by
  refine ⟨treeOf_nicknameCrate, ?_⟩
  have last : lastAt? (nicknameBlock "m::T" "f" 67 0).modulePath
      nicknameTree.root.modules = some (nicknameUses, nicknameItems) := rfl
  have names : typeNames (nicknameBlock "m::T" "f" 67 0).targetText =
      ["m", "T"] := by
    decide
  exact (attach_of_single_import last names (by decide) rfl
    mem_types_nicknameTree).1 rfl

/-- A block does not always belong to the type that the only import of its
first name leads to. -/
theorem not_always_attached_through_import :
    ¬ ∀ files crate skipsHidden file? declarations tree,
      treeOf files crate skipsHidden file? declarations = .ok tree →
      ∀ block ∈ tree.impls, ∀ uses items name rest target,
        lastAt? block.modulePath tree.root.modules = some (uses, items) →
        Item.impl block.order ∈ items →
        typeNames block.targetText = name :: rest →
        isAnchor name = false →
        uses.get name = [target] →
        target.join ⟨rest⟩ ∈ (TypeIndex.ofTree tree).types →
        (attach (TypeIndex.ofTree tree) tree.hidden block).1 =
          ⟨block, target.join ⟨rest⟩, true⟩ := by
  intro claimed
  have names : typeNames "h::T" = ["h", "T"] := by
    decide
  have attached := claimed _ _ _ _ _ _ treeOf_nicknameCrate
    (nicknameBlock "h::T" "g" 95 1) (by simp [nicknameTree]) nicknameUses
    nicknameItems "h" ["T"] ⟨["krate", "a", "m"]⟩ rfl
    (by simp [nicknameBlock, nicknameItems]) names (by decide) rfl
    mem_types_nicknameTree
  have readings : (TypeIndex.ofTree nicknameTree).candidates
      (nicknameBlock "h::T" "g" 95 1) =
        [⟨["krate", "a", "h", "T"]⟩, ⟨["krate", "h", "T"]⟩] := by
    decide
  -- Neither module is there, so nothing is imported on the way.
  have nowhere : ∀ path ∈ (TypeIndex.ofTree nicknameTree).candidates
      (nicknameBlock "h::T" "g" 95 1),
      (TypeIndex.ofTree nicknameTree).lookup? path = none := by
    rw [readings, List.forall_mem_cons, List.forall_mem_singleton]
    exact ⟨TypeIndex.lookup?_of_imports_eq_nil (by decide)
        (by decide),
      TypeIndex.lookup?_of_imports_eq_nil (by decide)
        (by decide)⟩
  rw [attach_eq_iff_findSome?, List.findSome?_eq_none_iff.2 nowhere]
    at attached
  cases attached

end

/-! ## Types of the own module -/

section

variable [Depths]

/-- There is a type with a path among items. -/
def HasType (items : List Item) (path : ItemPath) : Prop :=
  ∃ item ∈ items, typePath? item = some path

omit [Depths] in
/-- Where there is a module, there is a last one. -/
theorem exists_lastAt?
    {entry : ItemPath × UseTable × List Item}
    {modules : List (ItemPath × UseTable × List Item)}
    (member : entry ∈ modules) :
    ∃ last, lastAt? entry.1 modules = some last := by
  obtain ⟨before, after, rfl⟩ := List.append_of_mem member
  rw [lastAt?_append, lastAt?, if_pos rfl]
  cases lastAt? entry.1 after with
  | none => exact ⟨_, rfl⟩
  | some content => exact ⟨_, rfl⟩

/-- A type that a module declares is known exactly when the last module with
the same path declares it, too. -/
theorem IsRead.mem_types_iff_of_hasType
    {files : FileTree}
    {crate : CrateId}
    {file? : Option DiskPath}
    {declarations : List Declaration}
    {skipsHidden : Bool}
    {outline : Outline}
    (read : IsRead files crate skipsHidden file? declarations tree outline)
    {entry : ItemPath × UseTable × List Item}
    (member : entry ∈ tree.root.modules)
    {path : ItemPath}
    (has : HasType entry.2.2 path) :
    path ∈ (TypeIndex.ofTree tree).types ↔
      ∃ last, lastAt? entry.1 tree.root.modules = some last ∧
        HasType last.2 path := by
  obtain ⟨item, listed, typed⟩ := has
  have owned : path.parent? = some entry.1 :=
    read.holdsTypes member item listed path typed
  rw [read.mem_types_iff]
  constructor
  · rintro ⟨owner, above, uses, items, last, known⟩
    cases owned.symm.trans above
    exact ⟨(uses, items), last, known⟩
  · rintro ⟨⟨uses, items⟩, last, known⟩
    exact ⟨entry.1, owned, uses, items, last, known⟩

omit [Depths] in
/-- A block that names nothing else belongs to the type of this name in its
module exactly when there is one and no import of the name leads elsewhere. -/
theorem attach_push_iff
    (names : typeNames block.targetText = [name])
    (free : isAnchor name = false)
    (scope : index.uses? block.modulePath = some uses) :
    (attach index hidden block).1 =
        ⟨block, block.modulePath.push name, true⟩ ↔
      block.modulePath.push name ∈ index.types ∧
        ∀ goal,
          FirstLeadsTo index ((uses.get name).map (·.pop.push name)) goal →
            goal = block.modulePath.push name := by
  rw [attach_eq_iff_findSome?]
  have readings := findSome?_candidates names free scope
  simp only [join_singleton] at readings
  constructor
  · intro leads
    obtain ⟨path, _, finds⟩ := List.exists_of_findSome?_eq_some leads
    refine ⟨TypeIndex.mem_types_of_lookup? finds, fun goal first => ?_⟩
    rw [readings, List.findSome?_append, firstLeadsTo_iff.1 first,
      Option.some_or] at leads
    exact Option.some.inj leads
  · rintro ⟨isType, alone⟩
    rw [readings, List.findSome?_append]
    cases imported : ((uses.get name).map (·.pop.push name)).findSome?
        index.lookup? with
    | some goal =>
        rw [Option.some_or, alone goal (firstLeadsTo_iff.2 imported)]
    | none =>
        rw [Option.none_or, List.findSome?_cons,
          TypeIndex.lookup?_of_mem_types isType]

/--
A type that is declared in a module is known exactly when it is declared in
the last module with the same path.  A block for a type of its own module that
is not imported there by its name belongs to it exactly when the type is known
and no import of the name, in the last module with the path, leads elsewhere;
so it does if the module is this last one.
-/
theorem attach_of_own_type
    {files : FileTree}
    {crate : CrateId}
    {skipsHidden : Bool}
    {file? : Option DiskPath}
    {declarations : List Declaration}
    (read : treeOf files crate skipsHidden file? declarations = .ok tree)
    (here : (block.modulePath, uses, items) ∈ tree.root.modules)
    (own : HasType items (block.modulePath.push name))
    (names : typeNames block.targetText = [name])
    (free : isAnchor name = false)
    (unbound : uses.get name = []) :
    let index := TypeIndex.ofTree tree
    let attached := (attach index tree.hidden block).1
    (∀ entry ∈ tree.root.modules, ∀ path, HasType entry.2.2 path →
      (path ∈ index.types ↔
        ∃ last, lastAt? entry.1 tree.root.modules = some last ∧
          HasType last.2 path)) ∧
    ∃ last, lastAt? block.modulePath tree.root.modules = some last ∧
      (attached = ⟨block, block.modulePath.push name, true⟩ ↔
        HasType last.2 (block.modulePath.push name) ∧
          ∀ goal,
            FirstLeadsTo index ((last.1.get name).map (·.pop.push name))
              goal → goal = block.modulePath.push name) ∧
      (last = (uses, items) →
        attached = ⟨block, block.modulePath.push name, true⟩) := by
  intro index attached
  obtain ⟨outline, isRead⟩ := exists_isRead read
  refine ⟨fun entry member path => isRead.mem_types_iff_of_hasType member, ?_⟩
  obtain ⟨last, found⟩ := exists_lastAt? here
  have scope : index.uses? block.modulePath = some last.1 := by
    rw [TypeIndex.uses?_ofTree, found]
    rfl
  have settled : attached = ⟨block, _, true⟩ ↔ _ :=
    attach_push_iff names free scope
  rw [isRead.mem_types_iff_of_hasType here own, found] at settled
  simp only [Option.some.injEq, exists_eq_left'] at settled
  refine ⟨last, found, settled, ?_⟩
  rintro rfl
  refine settled.2 ⟨own, ?_⟩
  intro goal leads
  rw [unbound, firstLeadsTo_iff] at leads
  cases leads

end

section

attribute [local instance] Depths.usual

/-- A crate with two modules of the same path, for two platforms, of which the
first has a block for its own type. -/
def platformCrate : List Declaration :=
  [ .struct "T" .everywhere .unit,
    .note (.attribute .outer "#[cfg(unix)]".toList),
    .module "m" .everywhere (some
      [ .struct "T" .everywhere .unit,
        .impl ⟨"T", none, false, 53⟩
          (some [.function ⟨"f", .everywhere, "fn f()", false, false,
            []⟩]) ]),
    .note (.attribute .outer "#[cfg(not(unix))]".toList),
    .module "m" .everywhere (some []) ]

/-- The block of the crate. -/
def platformBlock : Impl where
  modulePath := ⟨["krate", "m"]⟩
  targetText := "T"
  traitText := none
  safety := .normal
  items := [⟨"f", .everywhere, [],
    .method ⟨"fn f()", .normal, .notConst, .rust, .inherentMethod⟩⟩]
  docs := []
  file? := none
  start := 53
  order := 0

/-- The items of the module with the block. -/
def platformItems : List Item :=
  [ .struct ⟨"T", ⟨["krate", "m", "T"]⟩, .everywhere, []⟩ [] false,
    .impl 0 ]

/-- The tree of the crate. -/
def platformTree : CrateTree where
  head := ⟨"krate", ⟨["krate"]⟩, .everywhere, []⟩
  info := { isRoot := true }
  items :=
    [ .struct ⟨"T", ⟨["krate", "T"]⟩, .everywhere, []⟩ [] false,
      .module ⟨"m", ⟨["krate", "m"]⟩, .everywhere, []⟩ {} platformItems,
      .module ⟨"m", ⟨["krate", "m"]⟩, .everywhere, []⟩ {} [] ]
  impls := [platformBlock]
  hidden := []

theorem treeOf_platformCrate :
    treeOf {} sampleCrate true none platformCrate = .ok platformTree := rfl

theorem mem_modules_platformTree :
    (platformBlock.modulePath, [], platformItems) ∈
      platformTree.root.modules := by
  simp [platformBlock, platformTree, CrateTree.root, Item.modules,
    modulesOfAll]

theorem hasType_platformItems :
    HasType platformItems (platformBlock.modulePath.push "T") :=
  ⟨_, List.mem_cons_self, rfl⟩

theorem typeNames_platformBlock :
    typeNames platformBlock.targetText = ["T"] := by
  decide

theorem attach_of_own_type_platformCrate :
    treeOf {} sampleCrate true none platformCrate = .ok platformTree ∧
      HasType platformItems (platformBlock.modulePath.push "T") ∧
      ¬ (attach (TypeIndex.ofTree platformTree) platformTree.hidden
        platformBlock).1 =
          ⟨platformBlock, platformBlock.modulePath.push "T", true⟩ := by
  refine ⟨treeOf_platformCrate, hasType_platformItems, ?_⟩
  obtain ⟨last, found, settled, _⟩ :=
    (attach_of_own_type treeOf_platformCrate mem_modules_platformTree
      hasType_platformItems typeNames_platformBlock (by decide)
      rfl).2
  cases found
  intro own
  obtain ⟨⟨item, none, _⟩, _⟩ := settled.1 own
  cases none

/-- A block does not always belong to the type of its name that its own module
declares. -/
theorem not_always_attached_to_own_type :
    ¬ ∀ files crate skipsHidden file? declarations tree,
      treeOf files crate skipsHidden file? declarations = .ok tree →
      ∀ block ∈ tree.impls, ∀ uses items name,
        (block.modulePath, uses, items) ∈ tree.root.modules →
        Item.impl block.order ∈ items →
        HasType items (block.modulePath.push name) →
        typeNames block.targetText = [name] →
        isAnchor name = false →
        uses.get name = [] →
        (attach (TypeIndex.ofTree tree) tree.hidden block).1 =
          ⟨block, block.modulePath.push name, true⟩ := by
  intro claimed
  have own := claimed _ _ _ _ _ _ treeOf_platformCrate platformBlock
    List.mem_cons_self [] platformItems "T" mem_modules_platformTree
    (by simp [platformBlock, platformItems]) hasType_platformItems
    typeNames_platformBlock (by decide) rfl
  have isType := ((attach_push_iff typeNames_platformBlock
    (by decide) rfl).1 own).1
  revert isType
  decide

end

end CrateShelf.Tree
