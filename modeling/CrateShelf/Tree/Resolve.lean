import CrateShelf.Text.Quoted
import CrateShelf.Tree.Item
import CrateShelf.Tree.TypeName

/-!
# The types of `impl` blocks

The path in an `impl` block is read in the module of the block: through its
imports, as an item of the module, through imports of everything, and from
the root of the crate.  A path that is no type may still lead to one through
the imports of the module it goes through, step by step.
-/

namespace CrateShelf.Tree

/-- The modules and types of a crate, by path.  Of several modules with the
same path, the last one counts. -/
structure TypeIndex where
  root : ItemPath
  modules : List (ItemPath × UseTable × List Item)
  types : List ItemPath

/-- Modules with one put under a path, in the place of an earlier one. -/
def putModule (modules : List (ItemPath × UseTable × List Item))
    (path : ItemPath) (uses : UseTable) (items : List Item) :
    List (ItemPath × UseTable × List Item) :=
  match modules with
  | [] => [(path, uses, items)]
  | (known, content) :: rest =>
    if known = path then (path, uses, items) :: rest
    else (known, content) :: putModule rest path uses items

mutual

/-- The modules found so far with those of an item. -/
def collectModules (modules : List (ItemPath × UseTable × List Item)) :
    Item → List (ItemPath × UseTable × List Item)
  | .module head info items =>
    collectAll (putModule modules head.path info.uses items) items
  | _ => modules

/-- The modules found so far with those of items. -/
def collectAll (modules : List (ItemPath × UseTable × List Item)) :
    List Item → List (ItemPath × UseTable × List Item)
  | [] => modules
  | item :: rest => collectAll (collectModules modules item) rest

end

/-- The path of an item that `impl` blocks can be about. -/
def typePath? : Item → Option ItemPath
  | .struct head _ _ | .enum head _ | .trait head _ _ => some head.path
  | _ => none

namespace TypeIndex

/-- The modules and types of a crate. -/
def ofTree (tree : CrateTree) : TypeIndex :=
  let modules := collectModules [] tree.root
  { root := tree.head.path
    modules
    types := (modules.flatMap fun (_, _, items) =>
      items.filterMap typePath?).eraseDups }

/-- The imports of the module at a path. -/
def uses? (index : TypeIndex) (path : ItemPath) : Option UseTable :=
  (index.modules.lookup path).map (·.1)

/-- The paths that the type of an `impl` block may have, the likeliest
first. -/
def candidates (index : TypeIndex) (block : Impl) : List ItemPath :=
  match typeNames block.targetText with
  | [] => []
  | first :: rest =>
    let names := first :: rest
    if isAnchor first then absolutePaths names block.modulePath index.root
    else
      let full : ItemPath := ⟨names⟩
      let uses := (index.uses? block.modulePath).getD []
      let imported := (uses.get first).map fun target =>
        target.pop.join full
      let globbed := (uses.get UseTable.globName).map (·.join full)
      (imported ++ [block.modulePath.join full] ++ globbed ++
        [index.root.join full]).eraseDups

/-- How many imports may lead from a path to a type. -/
def deepestImport : Nat := 8

mutual

/-- The type that a path leads to in a number of steps at most, and the paths
that have been tried. -/
def search (index : TypeIndex) : (steps : Nat) → ItemPath →
    List ItemPath → Option ItemPath × List ItemPath
  | steps, path, seen =>
    if path ∈ index.types then (some path, seen)
    else
      match steps with
      | 0 => (none, seen)
      | steps + 1 =>
        if path ∈ seen then (none, seen)
        else
          let seen := path :: seen
          match path.parent?.bind index.uses?, path.name? with
          | some uses, some name =>
            let targets := uses.get name ++
              (uses.get UseTable.globName).map (·.push name)
            searchAny index steps targets seen
          | _, _ => (none, seen)
termination_by steps _ _ => (steps, 0)

/-- The type that the first of some paths leads to that leads to one. -/
def searchAny (index : TypeIndex) : (steps : Nat) → List ItemPath →
    List ItemPath → Option ItemPath × List ItemPath
  | _, [], seen => (none, seen)
  | steps, path :: rest, seen =>
    match search index steps path seen with
    | (some found, seen) => (some found, seen)
    | (none, seen) => searchAny index steps rest seen
termination_by steps paths _ => (steps, paths.length + 1)

end

/-- The type that a path leads to. -/
def lookup? (index : TypeIndex) (path : ItemPath) : Option ItemPath :=
  (index.search deepestImport path []).1

end TypeIndex

/-- An `impl` block with the path that its items are documented under. -/
structure Attached where
  block : Impl
  target : ItemPath
  /-- Whether the path is that of a type of the crate. -/
  isResolved : Bool
deriving DecidableEq, Repr

/-- Finds the path of an `impl` block, and whether it was found or is at
least known to be hidden. -/
def attach (index : TypeIndex) (hidden : List ItemPath) (block : Impl) :
    Attached × Bool :=
  let candidates := index.candidates block
  match candidates.findSome? index.lookup? with
  | some found => (⟨block, found, true⟩, true)
  | none =>
    match candidates.find? (· ∈ hidden) with
    | some path => (⟨block, path, false⟩, true)
    | none =>
      (⟨block, candidates.head?.getD block.modulePath, false⟩, false)

/-- What is said about an `impl` block whose type is not known. -/
def unresolvedEntry (attached : Attached) : LogEntry :=
  ⟨.warning, "impl_resolver",
    "Could not resolve impl target " ++ quote attached.block.targetText ++
      " in " ++ attached.block.modulePath.toText ++
      "; attaching items to " ++ attached.target.toText⟩

/-- What is said about an `impl` block that is left out. -/
def droppedEntry (attached : Attached) : LogEntry :=
  ⟨.debug, "impl_resolver",
    "Dropping impl of hidden type " ++ attached.target.toText⟩

/-- The `impl` blocks of a crate by their numbers; blocks with one number stay
in their order. -/
def CrateTree.orderedImpls (tree : CrateTree) : List Impl :=
  tree.impls.mergeSort fun first second => first.order ≤ second.order

/-- Every `impl` block of a crate with its path, by their numbers. -/
def attachAll (tree : CrateTree) : List Attached :=
  tree.orderedImpls.map fun block =>
    (attach (TypeIndex.ofTree tree) tree.hidden block).1

/-- Whether an `impl` block is documented: its path is not that of something
hidden. -/
def isKept (tree : CrateTree) (attached : Attached) : Bool :=
  attached.target ∉ tree.hidden

/-- The documented `impl` blocks of a crate, by their numbers, and what is said
about the others. -/
def resolve (tree : CrateTree) : List Attached × List LogEntry :=
  let index := TypeIndex.ofTree tree
  let results := tree.orderedImpls.map (attach index tree.hidden)
  let entries := results.flatMap fun (attached, isKnown) =>
    (if isKnown then [] else [unresolvedEntry attached]) ++
      if isKept tree attached then [] else [droppedEntry attached]
  ((results.map (·.1)).filter (isKept tree), entries)

/-- Blocks that are listed by their numbers stay in their order. -/
theorem CrateTree.orderedImpls_of_pairwise (tree : CrateTree)
    (ordered : tree.impls.Pairwise fun first second =>
      first.order ≤ second.order) :
    tree.orderedImpls = tree.impls :=
  List.mergeSort_of_pairwise (ordered.imp fun before => by simpa using before)

@[simp]
theorem CrateTree.mem_orderedImpls (tree : CrateTree) (block : Impl) :
    block ∈ tree.orderedImpls ↔ block ∈ tree.impls :=
  List.mem_mergeSort

end CrateShelf.Tree
