import CrateShelf.ItemPath
import CrateShelf.Source.Declaration

/-!
# Imported names

A module's use table says for each imported name which paths it may stand
for, in the order of the declarations.  The paths of declarations are read
relative to the crate or to the module.
-/

namespace CrateShelf

/-- The paths that imported names may stand for, in the order in which the
names were first bound. -/
abbrev UseTable := List (String × List ItemPath)

namespace UseTable

/-- The name under which the modules are kept whose items are all imported. -/
def globName : String := "*"

/-- The name that stands for a leading `::`. -/
def globalAnchor : String := "::"

/-- The paths that a name may stand for. -/
def get (table : UseTable) (name : String) : List ItemPath :=
  (table.lookup name).getD []

/-- The table with one more path for a name; a path is kept once. -/
def bind (table : UseTable) (name : String) (target : ItemPath) : UseTable :=
  match table with
  | [] => [(name, [target])]
  | (known, targets) :: rest =>
    if known = name then
      (known, if target ∈ targets then targets else targets ++ [target]) ::
        rest
    else (known, targets) :: bind rest name target

end UseTable

/-- The leading names of a path for which there is exactly one reading. -/
def isAnchor (name : String) : Bool :=
  name = "crate" || name = "self" || name = "super" ||
    name = UseTable.globalAnchor

/-- Goes up one module for each leading `super`, but not above the crate, and
then down the other names. -/
def ascend (root base : ItemPath) : List String → ItemPath
  | "super" :: rest =>
    if root.length < base.length then ascend root base.pop rest
    else ascend root base rest
  | names => base.join ⟨names⟩

/-- The paths that names may stand for in a module of a crate, the likeliest
first.  Without an anchor, names are read from the crate's root and then from
the module. -/
def absolutePaths (names : List String) (module root : ItemPath) :
    List ItemPath :=
  match names with
  | [] => []
  | first :: rest =>
    if first = "crate" || first = UseTable.globalAnchor then
      [root.join ⟨rest⟩]
    else if first = "self" then [ascend root module rest]
    else if first = "super" then [ascend root module names]
    else
      let fromRoot := root.join ⟨names⟩
      let fromModule := module.join ⟨names⟩
      if fromModule = fromRoot then [fromRoot] else [fromRoot, fromModule]

namespace Source.UseTree

/-- Names without a `self` at their end, unless it is all there is. -/
def dropSelf (names : List String) : List String :=
  if names.getLast? = some "self" && 1 < names.length then names.dropLast
  else names

mutual

/-- The names that a tree binds, below names that lead to it, each with the
names of what it stands for. -/
def bindings (above : List String) :
    UseTree → List (String × List String)
  | .path names =>
    let names := dropSelf (above ++ names)
    match names.getLast? with
    | some last => [(last, names)]
    | none => []
  | .renamed names newName =>
    let names := dropSelf (above ++ names)
    if newName = "_" || names.isEmpty then [] else [(newName, names)]
  | .glob names => [(UseTable.globName, above ++ names)]
  | .group names trees => bindingsOfAll (above ++ names) trees

/-- The names that several trees bind, below names that lead to them. -/
def bindingsOfAll (above : List String) :
    List UseTree → List (String × List String)
  | [] => []
  | tree :: rest => bindings above tree ++ bindingsOfAll above rest

end

mutual

/-- How deeply a tree is nested: each name of a path is inside the next. -/
def depth : UseTree → Nat
  | .path names | .renamed names _ | .glob names => names.length + 1
  | .group names trees => max names.length (depthOfAll trees) + 1

/-- How deeply the deepest of several trees is nested. -/
def depthOfAll : List UseTree → Nat
  | [] => 0
  | tree :: rest => max (depth tree) (depthOfAll rest)

end

end Source.UseTree

namespace UseTable

/-- The table with one name bound to all its readings in a module. -/
def bindNames (table : UseTable) (module root : ItemPath)
    (binding : String × List String) : UseTable :=
  (absolutePaths binding.2 module root).foldl
    (fun table path => table.bind binding.1 path) table

/-- The table with everything bound that a declaration in a module binds. -/
def addTree (table : UseTable) (module root : ItemPath)
    (tree : Source.UseTree) : UseTable :=
  (tree.bindings []).foldl
    (fun table binding => table.bindNames module root binding) table

end UseTable

/-- Going up and down from below a crate's root does not leave the crate. -/
theorem startsWith_ascend (root base : ItemPath) (names : List String)
    (inside : base.startsWith root = true) :
    (ascend root base names).startsWith root = true := by
  fun_induction ascend root base names with
  | case1 base rest longer inductionStep =>
    apply inductionStep
    rw [ItemPath.startsWith_iff] at inside ⊢
    obtain ⟨below, rfl⟩ := inside
    rcases List.eq_nil_or_concat below.segments with
      empty | ⟨front, last, shape⟩
    · simp [ItemPath.length, ItemPath.join, empty] at longer
    · refine ⟨⟨front⟩, ?_⟩
      simp [ItemPath.join, ItemPath.pop, shape]
  | case2 base rest _ inductionStep => exact inductionStep inside
  | case3 base names _ =>
    rw [ItemPath.startsWith_iff] at inside ⊢
    obtain ⟨below, rfl⟩ := inside
    exact ⟨below.join ⟨names⟩, ItemPath.join_assoc _ _ _⟩

/-- Every reading of names in a module of a crate lies in the crate. -/
theorem startsWith_of_mem_absolutePaths (names : List String)
    (module root path : ItemPath)
    (inside : module.startsWith root = true)
    (member : path ∈ absolutePaths names module root) :
    path.startsWith root = true := by
  have below : ∀ rest : ItemPath,
      (root.join rest).startsWith root = true := fun rest =>
    (ItemPath.startsWith_iff _ _).2 ⟨rest, rfl⟩
  unfold absolutePaths at member
  split at member
  · simp at member
  · split at member
    · simp only [List.mem_singleton] at member
      exact member ▸ below _
    · split at member
      · simp only [List.mem_singleton] at member
        exact member ▸ startsWith_ascend _ _ _ inside
      · split at member
        · simp only [List.mem_singleton] at member
          exact member ▸ startsWith_ascend _ _ _ inside
        · have within : ∀ rest : ItemPath,
              (module.join rest).startsWith root = true := by
            intro rest
            obtain ⟨middle, rfl⟩ := (ItemPath.startsWith_iff _ _).1 inside
            exact (ItemPath.startsWith_iff _ _).2
              ⟨middle.join rest, ItemPath.join_assoc _ _ _⟩
          dsimp only at member
          split at member <;>
            simp only [List.mem_cons, List.not_mem_nil, or_false] at member
          · exact member ▸ below _
          · rcases member with rfl | rfl
            · exact below _
            · exact within _

end CrateShelf
