import CrateShelf.Proofs.Tree.Index
import CrateShelf.Proofs.Tree.Reading

/-!
# What a search for a type finds

A search goes from path to path through imports, a number of times in a row at
most, and does not go on twice from the same path.  It remembers where it has
been, but not how many steps were left there.

Main statement: a search finds only types that its path leads to, and misses
such a type only if it is overtaken: the search comes through many imports, as
its last step, to a path that fewer imports lead to as well.
-/

namespace CrateShelf.Tree

namespace TypeIndex

variable
    {index : TypeIndex}
    {start path next goal : ItemPath}
    {trail seen middle later : List ItemPath}
    {steps : Nat}

/-! ## Ways through imports -/

theorem Leads.mono
    {more : Nat}
    (leads : index.Leads steps path goal)
    (fewer : steps ≤ more) :
    index.Leads more path goal := by
  induction leads generalizing more with
  | here steps path => exact .here more path
  | through imported further inductionStep =>
      obtain ⟨more, rfl⟩ := Nat.exists_eq_succ_of_ne_zero
        (Nat.ne_zero_of_lt fewer)
      exact .through imported (inductionStep (Nat.le_of_succ_le_succ fewer))

theorem Leads.trans
    {further : Nat}
    (first : index.Leads steps path next)
    (second : index.Leads further next goal) :
    index.Leads (steps + further) path goal := by
  induction first with
  | here steps path => exact second.mono (Nat.le_add_left _ _)
  | through imported _ inductionStep =>
      rw [Nat.succ_add]
      exact .through imported (inductionStep second)

/-- A path leads to what it imports. -/
theorem leads_of_mem_imports
    (imported : next ∈ index.imports path) :
    index.Leads 1 path next :=
  .through imported (.here 0 next)

/-! ## Types that are found -/

/-- A search finds what its path leads to. -/
theorem leads_of_search
    {found : ItemPath}
    (finds : (index.search steps path seen).1 = some found) :
    index.Leads steps path found := by
  induction steps generalizing path seen with
  | zero =>
      rw [search_zero] at finds
      split at finds
      · cases finds
        exact .here 0 _
      · cases finds
  | succ steps inductionStep =>
      rw [search_succ] at finds
      split at finds
      · cases finds
        exact .here _ _
      · split at finds
        · cases finds
        · obtain ⟨next, imported, _, found⟩ := exists_of_searchAny finds
          exact .through imported (inductionStep found)

/-! ## Types that are missed -/

/-- A search comes from its start to a path through paths that are all
different and no types, the latest first. -/
inductive Arrives (index : TypeIndex) (start : ItemPath) :
    List ItemPath → ItemPath → Prop where
  | start : Arrives index start [] start
  | step {trail : List ItemPath} {path next : ItemPath}
      (earlier : Arrives index start trail path)
      (unknown : path ∉ index.types)
      (fresh : path ∉ trail)
      (imported : next ∈ index.imports path) :
    Arrives index start (path :: trail) next

/-- A search may have one step left when it comes to a path that is no
type. -/
def IsLate (index : TypeIndex) (start late : ItemPath) : Prop :=
  ∃ trail,
    index.Arrives start trail late ∧ trail.length + 1 = deepestImport ∧
      late ∉ trail ∧ late ∉ index.types

/-- A path leads to a type through one to which a search may come with one
step left, although fewer imports lead there and further ones to the type. -/
def IsOvertaken (index : TypeIndex) (start goal : ItemPath)
    (steps : Nat) : Prop :=
  ∃ late before after,
    index.IsLate start late ∧
      0 < before ∧ 1 < after ∧ before + after ≤ steps ∧
      index.Leads before start late ∧ index.Leads after late goal

theorem IsOvertaken.leads
    (overtaken : index.IsOvertaken start goal steps) :
    index.Leads steps start goal := by
  obtain ⟨late, before, after, _, _, _, short, first, second⟩ := overtaken
  exact (first.trans second).mono short

theorem Arrives.start_mem
    (arrives : index.Arrives start trail path)
    (moved : trail ≠ []) :
    start ∈ trail := by
  induction arrives with
  | start => exact absurd rfl moved
  | step earlier unknown fresh imported inductionStep =>
      cases earlier with
      | start => exact List.mem_cons_self
      | step => exact List.mem_cons_of_mem _ (inductionStep (by simp))

/-- A search does not start late. -/
theorem IsLate.ne_start
    {late : ItemPath}
    (isLate : index.IsLate start late) :
    late ≠ start := by
  rintro rfl
  obtain ⟨trail, arrives, long, fresh, _⟩ := isLate
  refine fresh (arrives.start_mem ?_)
  rintro rfl
  cases long

/-- A search has gone on from a path and found nothing: it has been at all
that the path imports, unless it came to the path late. -/
structure IsSettled (index : TypeIndex) (start : ItemPath)
    (seen : List ItemPath) (path : ItemPath) : Prop where
  unknown : path ∉ index.types
  imports : ∀ next ∈ index.imports path,
    next ∉ index.types ∧ (next ∈ seen ∨ index.IsLate start path)

theorem IsSettled.mono
    (settled : index.IsSettled start seen path)
    (subset : seen ⊆ later) :
    index.IsSettled start later path where
  unknown := settled.unknown
  imports next imported :=
    (settled.imports next imported).imp_right (Or.imp_left (@subset next))

/-- A search that has found nothing has been at more paths, all settled. -/
structure Widens (index : TypeIndex) (start : ItemPath)
    (seen later : List ItemPath) : Prop where
  subset : seen ⊆ later
  settled : ∀ path ∈ later, path ∉ seen → index.IsSettled start later path

theorem Widens.refl (seen : List ItemPath) :
    index.Widens start seen seen where
  subset := List.Subset.refl seen
  settled _ known unknown := absurd known unknown

theorem Widens.trans
    (first : index.Widens start seen middle)
    (second : index.Widens start middle later) :
    index.Widens start seen later where
  subset := List.Subset.trans first.subset second.subset
  settled path member fresh := by
    by_cases known : path ∈ middle
    · exact (first.settled path known fresh).mono second.subset
    · exact second.settled path member known

/-- What a search from a path leaves behind that finds nothing. -/
def Leaves (index : TypeIndex) (start : ItemPath) (steps : Nat)
    (seen later : List ItemPath) (path : ItemPath) : Prop :=
  path ∉ index.types ∧ (steps ≠ 0 → path ∈ later) ∧
    index.Widens start seen later

/-- If each of several paths leaves settled paths behind, so do all of
them. -/
theorem widens_of_searchAny
    {paths : List ItemPath}
    (each : ∀ path ∈ paths, ∀ seen later, trail ⊆ seen →
      index.search steps path seen = (none, later) →
        index.Leaves start steps seen later path)
    (known : trail ⊆ seen)
    (fails : index.searchAny steps paths seen = (none, later)) :
    (∀ path ∈ paths, path ∉ index.types ∧ (steps ≠ 0 → path ∈ later)) ∧
      index.Widens start seen later := by
  induction paths generalizing seen with
  | nil =>
      rw [searchAny] at fails
      cases fails
      exact ⟨List.forall_mem_nil _, .refl _⟩
  | cons path paths inductionStep =>
      rw [List.forall_mem_cons] at each
      rw [searchAny] at fails
      split at fails
      · cases fails
      · rename_i middle searched
        obtain ⟨unknown, visited, first⟩ := each.1 seen middle known searched
        obtain ⟨others, second⟩ := inductionStep each.2
          (List.Subset.trans known first.subset) fails
        refine ⟨List.forall_mem_cons.2 ⟨⟨unknown, fun left => ?_⟩, others⟩,
          first.trans second⟩
        exact second.subset (visited left)

/-- A search that finds nothing leaves settled paths behind. -/
theorem leaves_of_search
    (arrives : index.Arrives start trail path)
    (within : steps + trail.length = deepestImport)
    (known : trail ⊆ seen)
    (fails : index.search steps path seen = (none, later)) :
    index.Leaves start steps seen later path := by
  induction steps generalizing path trail seen later with
  | zero =>
      rw [search_zero] at fails
      split at fails
      · cases fails
      · rename_i unknown
        cases fails
        exact ⟨unknown, fun left => absurd rfl left, .refl seen⟩
  | succ steps inductionStep =>
      rw [search_succ] at fails
      split at fails
      · cases fails
      · rename_i unknown
        split at fails
        · rename_i visited
          cases fails
          exact ⟨unknown, fun _ => visited, .refl seen⟩
        · rename_i fresh
          have new : path ∉ trail := fun member => fresh (known member)
          have deeper : steps + (path :: trail).length = deepestImport := by
            rw [List.length_cons]
            omega
          obtain ⟨targets, widens⟩ := widens_of_searchAny
            (fun next imported _ _ known fails =>
              inductionStep (arrives.step unknown new imported) deeper known
                fails)
            (List.cons_subset_cons path known) fails
          have visited : path ∈ later := widens.subset List.mem_cons_self
          -- With no step left for what the path imports, it is late.
          have settled : index.IsSettled start later path := by
            refine ⟨unknown, fun next imported =>
              ⟨(targets next imported).1, ?_⟩⟩
            by_cases left : steps = 0
            · exact Or.inr ⟨trail, arrives, by omega, new, unknown⟩
            · exact Or.inl ((targets next imported).2 left)
          refine ⟨unknown, fun _ => visited,
            List.Subset.trans (List.subset_cons_self _ _) widens.subset,
            fun other member unseen => ?_⟩
          by_cases same : other = path
          · exact same ▸ settled
          · exact widens.settled other member (by simp [same, unseen])

/-- Among settled paths, a type can only be reached from a late one. -/
theorem isOvertaken_of_leads
    {before : Nat}
    (settled : ∀ path ∈ seen, index.IsSettled start seen path)
    (known : goal ∈ index.types)
    (visited : path ∈ seen)
    (reached : index.Leads before start path)
    (leads : index.Leads steps path goal) :
    index.IsOvertaken start goal (before + steps) := by
  induction leads generalizing before with
  | here steps path => exact absurd known (settled path visited).unknown
  | @through steps path next goal imported further inductionStep =>
      obtain ⟨unknown, later | late⟩ :=
        (settled path visited).imports next imported
      · have onward := inductionStep known later
          (reached.trans (leads_of_mem_imports imported))
        rwa [Nat.add_assoc, Nat.add_comm 1] at onward
      · refine ⟨path, before, steps + 1, late, ?_, ?_, Nat.le_refl _,
          reached, .through imported further⟩
        · -- Nothing but the start is reached without an import.
          rw [Nat.pos_iff_ne_zero]
          rintro rfl
          cases reached
          exact late.ne_start rfl
        · rw [Nat.lt_add_left_iff_pos, Nat.pos_iff_ne_zero]
          rintro rfl
          cases further
          exact unknown known

/-- A type that a path leads to is overtaken if the path finds nothing. -/
theorem isOvertaken_of_lookup?
    (fails : index.lookup? start = none)
    (known : goal ∈ index.types)
    (leads : index.Leads steps start goal) :
    index.IsOvertaken start goal steps := by
  obtain ⟨later, searched⟩ :
      ∃ later, index.search deepestImport start [] = (none, later) :=
    ⟨_, Prod.ext fails rfl⟩
  obtain ⟨_, visited, widens⟩ :=
    leaves_of_search .start rfl (List.nil_subset _) searched
  have settled : ∀ path ∈ later, index.IsSettled start later path :=
    fun path member => widens.settled path member List.not_mem_nil
  have overtaken := isOvertaken_of_leads settled known
    (visited (by decide)) (.here 0 start) leads
  rwa [Nat.zero_add] at overtaken

/--
What a path is looked up to is a type that it leads to through at most eight
imports.  A type that it leads to through at most two imports is never missed;
and if nothing is found, the types that it leads to through at most eight are
exactly those that are overtaken.
-/
theorem leads_of_found_and_missed_iff (index : TypeIndex)
    (start : ItemPath) :
    (∀ found, index.lookup? start = some found →
      found ∈ index.types ∧ index.Leads deepestImport start found) ∧
    (∀ goal ∈ index.types, index.Leads 2 start goal →
      ∃ found, index.lookup? start = some found) ∧
    (index.lookup? start = none →
      ∀ goal ∈ index.types,
        index.Leads deepestImport start goal ↔
          index.IsOvertaken start goal deepestImport) := by
  refine ⟨fun found finds => ?_, fun goal known leads => ?_,
    fun fails goal known => ?_⟩
  · exact ⟨mem_types_of_lookup? finds, leads_of_search finds⟩
  · rw [← Option.ne_none_iff_exists']
    intro fails
    obtain ⟨_, _, _, _, _, _, short, _⟩ :=
      isOvertaken_of_lookup? fails known leads
    omega
  · exact ⟨isOvertaken_of_lookup? fails known, IsOvertaken.leads⟩

end TypeIndex

/-! ## A type that is overtaken -/

open Source (Declaration)

/-- An import of something at the root of a crate under another name. -/
def importAs (name newName : String) : Declaration :=
  .importing ("use " ++ name ++ " as " ++ newName ++ ";") .inherited
    (.renamed [name] newName)

/-- A crate in which `a` stands for `b`, which leads to `h` by six imports,
and for `h` itself, which leads to a type by two. -/
def detourCrate : List Declaration :=
  [ importAs "b" "a", importAs "h" "a", importAs "c" "b", importAs "d" "c",
    importAs "e" "d", importAs "f" "e", importAs "g" "f", importAs "h" "g",
    importAs "i" "h", importAs "T" "i", .struct "T" .everywhere .unit ]

/-- A path right below the root of the crate. -/
def detourPath (name : String) : ItemPath := ⟨["krate", name]⟩

/-- What the root of the crate imports. -/
def detourUses : UseTable :=
  [ ("a", [detourPath "b", detourPath "h"]), ("b", [detourPath "c"]),
    ("c", [detourPath "d"]), ("d", [detourPath "e"]),
    ("e", [detourPath "f"]), ("f", [detourPath "g"]),
    ("g", [detourPath "h"]), ("h", [detourPath "i"]),
    ("i", [detourPath "T"]) ]

/-- The tree of the crate. -/
def detourTree : CrateTree where
  head := ⟨"krate", ⟨["krate"]⟩, .everywhere, []⟩
  info := { isRoot := true, uses := detourUses }
  items :=
    [ .importing "use b as a;" .inherited,
      .importing "use h as a;" .inherited,
      .importing "use c as b;" .inherited,
      .importing "use d as c;" .inherited,
      .importing "use e as d;" .inherited,
      .importing "use f as e;" .inherited,
      .importing "use g as f;" .inherited,
      .importing "use h as g;" .inherited,
      .importing "use i as h;" .inherited,
      .importing "use T as i;" .inherited,
      .struct ⟨"T", detourPath "T", .everywhere, []⟩ [] false ]
  impls := []
  hidden := []

attribute [local instance] Depths.usual in
theorem treeOf_detourCrate :
    treeOf {} sampleCrate true none detourCrate = .ok detourTree := rfl

theorem imports_detourTree :
    let imports := (TypeIndex.ofTree detourTree).imports
    imports (detourPath "a") = [detourPath "b", detourPath "h"] ∧
      imports (detourPath "b") = [detourPath "c"] ∧
      imports (detourPath "c") = [detourPath "d"] ∧
      imports (detourPath "d") = [detourPath "e"] ∧
      imports (detourPath "e") = [detourPath "f"] ∧
      imports (detourPath "f") = [detourPath "g"] ∧
      imports (detourPath "g") = [detourPath "h"] ∧
      imports (detourPath "h") = [detourPath "i"] ∧
      imports (detourPath "i") = [detourPath "T"] := by
  decide

theorem types_detourTree :
    (TypeIndex.ofTree detourTree).types = [detourPath "T"] := by
  decide

theorem lookup?_detourTree :
    (TypeIndex.ofTree detourTree).lookup? (detourPath "a") = none := by
  obtain ⟨a, b, c, d, e, f, g, h, _⟩ := imports_detourTree
  have same (name other : String) :
      detourPath name = detourPath other ↔ name = other := by
    simp [detourPath]
  simp [TypeIndex.lookup?, TypeIndex.deepestImport, TypeIndex.search_succ,
    TypeIndex.search_zero, TypeIndex.searchAny, types_detourTree, same, a, b,
    c, d, e, f, g, h]

attribute [local instance] Depths.usual in
/-- A type that a path leads to is not always found. -/
theorem not_always_found :
    ¬ ∀ files crate skipsHidden file? declarations tree,
      treeOf files crate skipsHidden file? declarations = .ok tree →
      ∀ start goal, goal ∈ (TypeIndex.ofTree tree).types →
        (TypeIndex.ofTree tree).Leads TypeIndex.deepestImport start goal →
          ∃ found, (TypeIndex.ofTree tree).lookup? start = some found := by
  intro claimed
  obtain ⟨a, _, _, _, _, _, _, h, i⟩ := imports_detourTree
  have leads : (TypeIndex.ofTree detourTree).Leads TypeIndex.deepestImport
      (detourPath "a") (detourPath "T") := by
    have first : detourPath "h" ∈
        (TypeIndex.ofTree detourTree).imports (detourPath "a") := by
      simp [a]
    have second : detourPath "i" ∈
        (TypeIndex.ofTree detourTree).imports (detourPath "h") := by
      simp [h]
    have third : detourPath "T" ∈
        (TypeIndex.ofTree detourTree).imports (detourPath "i") := by
      simp [i]
    exact .through first (.through second (.through third (.here _ _)))
  obtain ⟨found, finds⟩ := claimed _ _ _ _ _ _ treeOf_detourCrate
    (detourPath "a") (detourPath "T") (by simp [types_detourTree]) leads
  rw [lookup?_detourTree] at finds
  cases finds

end CrateShelf.Tree
