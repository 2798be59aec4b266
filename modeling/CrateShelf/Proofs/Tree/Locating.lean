import CrateShelf.Proofs.Tree.Moved
import CrateShelf.Proofs.Tree.Nesting

/-!
# Where modules are looked for

A module is nested in files and in modules with bodies.  The root file, a file
called `mod.rs` and a file that an attribute names own the directory they lie
in, any other file the one of its own name beside it, and a module with a body
owns the directory of its name in the one around it.  A module without a body is
due in two files of the directory that is owned by what declares it, or where an
attribute says.

Main statement: the first of the due files is read, unless an attribute names
no file, or the file of the declaration strays: an attribute names it and it is
not called as a file that owns its directory, or it is found as `lib.rs` or
`main.rs` by the name of its module.
-/

namespace CrateShelf

namespace DiskPath

/-- A path followed by a name determines the path. -/
theorem child_left_inj
    {first second : DiskPath}
    {name : String}
    (slashFree : '/' ∉ name.toList) :
    first.child name = second.child name ↔ first = second := by
  constructor
  · intro same
    obtain ⟨_, _⟩ := first
    obtain ⟨_, _⟩ := second
    simpa [child, join, parse_of_not_mem slashFree] using same
  · rintro rfl
    rfl

/-- Only a name that is no part of a path leads nowhere. -/
theorem child_eq_self_iff
    (path : DiskPath)
    {name : String}
    (slashFree : '/' ∉ name.toList) :
    path.child name = path ↔ name ∈ ["", "."] := by
  obtain ⟨root, parts⟩ := path
  rw [child, parse_of_not_mem slashFree, join, if_pos rfl, mk.injEq]
  by_cases empty : name = ""
  · simp [empty]
  · by_cases dot : name = "."
    · simp [dot]
    · simp [empty, dot]

theorem not_mem_stem
    {path : DiskPath}
    (slashFree : '/' ∉ path.name.toList) :
    '/' ∉ path.stem.toList := by
  unfold stem
  dsimp only
  split
  · rw [String.toList_ofList]
    exact fun member => slashFree (List.mem_of_mem_take member)
  · exact slashFree

end DiskPath

namespace Tree

open Docs (Note)
open Source (Declaration)
open Visit

/-! ## Nested modules -/

/-- The files of a directory that are called as a module is. -/
def filesNamed (directory : DiskPath) (name : String) : List DiskPath :=
  [directory.child (name ++ ".rs"), (directory.child name).child "mod.rs"]

theorem filesNamed_left_inj
    {first second : DiskPath}
    {name : String}
    (slashFree : '/' ∉ name.toList) :
    filesNamed first name = filesNamed second name ↔ first = second := by
  constructor
  · intro same
    have whole : '/' ∉ (name ++ ".rs").toList := by
      simp [slashFree]
    exact (DiskPath.child_left_inj whole).1 (List.cons.inj same).1
  · rintro rfl
    rfl

/-- How a module is nested in files and in modules with bodies. -/
inductive Nesting where
  /-- It is the root module, with this file. -/
  | root (file : DiskPath)
  /-- It has a body and this name. -/
  | body (outer : Nesting) (name : String)
  /-- It has a file that is found by its name. -/
  | named (outer : Nesting) (file : DiskPath)
  /-- It has a file that an attribute names. -/
  | pointed (outer : Nesting) (file : DiskPath)
deriving DecidableEq, Repr

namespace Nesting

/-- The file with the declarations of the module. -/
def file : Nesting → DiskPath
  | root file | named _ file | pointed _ file => file
  | body outer _ => outer.file

/-- The nesting of a module in this one whose file is found, where an attribute
may name it. -/
def entered (outer : Nesting) (override? : Option WideText) (file : DiskPath) :
    Nesting :=
  if (override?.filter (· ≠ .whole "")).isSome then .pointed outer file
  else .named outer file

/-- The directory that the module owns. -/
def owned : Nesting → DiskPath
  | root file | pointed _ file => file.parent
  | named _ file =>
    if file.name = "mod.rs" then file.parent
    else file.parent.child file.stem
  | body outer name => outer.owned.child name

/-- The files in which a module of a name is due, in order. -/
def due (nesting : Nesting) (name : String) : List DiskPath :=
  filesNamed nesting.owned name

/-- Whether the file of the module is called as if it owned another directory
than it does. -/
def isStray : Nesting → Bool
  | root _ => false
  | named _ file => file.name ∈ ["lib.rs", "main.rs"]
  | pointed _ file =>
    file.name ∉ ["mod.rs", "lib.rs", "main.rs"] && file.stem ∉ ["", "."]
  | body outer _ => outer.isStray

/-- The names of the file and of the modules with bodies in it. -/
def names : Nesting → List String
  | root file | named _ file | pointed _ file => [file.name]
  | body outer name => name :: outer.names

/-- The directory of the module as it is told by the name of its file. -/
def told : Nesting → DiskPath
  | root file => file.parent
  | named _ file | pointed _ file => childDirectory file
  | body outer name => outer.told.child name

@[simp]
theorem file_entered (outer : Nesting) (override? : Option WideText)
    (file : DiskPath) :
    (outer.entered override? file).file = file := by
  unfold entered
  split
  · rfl
  · rfl

@[simp]
theorem told_entered (outer : Nesting) (override? : Option WideText)
    (file : DiskPath) :
    (outer.entered override? file).told = childDirectory file := by
  unfold entered
  split
  · rfl
  · rfl

/-- The name of a file tells the directory that the module owns, unless the
file strays. -/
theorem told_eq_owned
    {nesting : Nesting}
    (orderly : nesting.isStray = false) :
    nesting.told = nesting.owned := by
  induction nesting with
  | root file => rfl
  | body outer name inductionStep =>
      rw [told, owned, inductionStep orderly]
  | named outer file _ =>
      rw [isStray, decide_eq_false_iff_not] at orderly
      rw [told, owned, childDirectory]
      by_cases called : file.name = "mod.rs"
      · simp [called]
      · rw [if_neg called, if_neg]
        rw [List.mem_cons, not_or]
        exact ⟨called, orderly⟩
  | pointed outer file _ =>
      rw [told, owned, childDirectory]
      split
      · rfl
      · rename_i foreign
        have nameless : file.stem ∈ ["", "."] := by
          rw [isStray, decide_eq_true foreign, Bool.true_and,
            decide_eq_false_iff_not, not_not] at orderly
          exact orderly
        have slashFree : '/' ∉ file.stem.toList := by
          have all : ∀ stem ∈ ["", "."], '/' ∉ stem.toList := by
            decide
          exact all _ nameless
        exact (DiskPath.child_eq_self_iff _ slashFree).2 nameless

/-- The name of a file that strays tells another directory. -/
theorem told_ne_owned
    {nesting : Nesting}
    (stray : nesting.isStray = true)
    (slashFree : ∀ name ∈ nesting.names, '/' ∉ name.toList) :
    nesting.told ≠ nesting.owned := by
  induction nesting with
  | root file => cases stray
  | body outer name inductionStep =>
      rw [names, List.forall_mem_cons] at slashFree
      rw [told, owned, ne_eq, DiskPath.child_left_inj slashFree.1]
      exact inductionStep stray slashFree.2
  | named outer file _ =>
      rw [isStray, decide_eq_true_eq] at stray
      have whole := DiskPath.not_mem_stem
        (slashFree file.name (List.mem_singleton_self _))
      have other : file.name ≠ "mod.rs" := by
        intro called
        rw [called] at stray
        exact absurd stray (by decide)
      rw [told, owned, childDirectory, if_pos (List.mem_cons_of_mem _ stray),
        if_neg other]
      intro same
      have nameless := (DiskPath.child_eq_self_iff _ whole).1 same.symm
      simp only [List.mem_cons, List.not_mem_nil, or_false] at stray
      rcases stray with called | called
      · rw [DiskPath.stem, called] at nameless
        exact absurd nameless (by decide)
      · rw [DiskPath.stem, called] at nameless
        exact absurd nameless (by decide)
  | pointed outer file _ =>
      rw [isStray, Bool.and_eq_true, decide_eq_true_eq,
        decide_eq_true_eq] at stray
      have whole := DiskPath.not_mem_stem
        (slashFree file.name (List.mem_singleton_self _))
      rw [told, owned, childDirectory, if_neg stray.1]
      exact fun same =>
        stray.2 ((DiskPath.child_eq_self_iff _ whole).1 same)

end Nesting

/-! ## Modules that are come to -/

/-- The paths at which the file of a module is looked for that is declared in a
place. -/
def lookedAt (place : Place) (name : String) (override? : Option WideText) :
    List DiskPath :=
  match place.file?, place.directory? with
  | some file, some directory => moduleFiles directory file name override?
  | _, _ => []

/-- These paths as they are told, also where no file can have the name. -/
def toldAt (place : Place) (name : String) (override? : Option WideText) :
    List DiskPath :=
  match place.file?, place.directory? with
  | some file, some directory => toldFiles directory file name override?
  | _, _ => []

/-- The visit of a crate comes to a place by a nesting: by modules with bodies
and by files that are found for modules. -/
inductive ComesTo (files : FileTree) (root : Place) :
    Nesting → Place → Prop where
  | root {file : DiskPath}
      (filed : root.file? = some file)
      (placed : root.directory? = some file.parent) :
    ComesTo files root (.root file) root
  | body {outer : Nesting} {place : Place}
      (comes : ComesTo files root outer place)
      (name : String) :
    ComesTo files root (.body outer name)
      ⟨place.path.push name, place.file?,
        place.directory?.map (·.child name)⟩
  | filed {outer : Nesting} {place : Place} {name : String}
      {override? : Option WideText} {file : DiskPath}
      (comes : ComesTo files root outer place)
      (first : firstFile? files (lookedAt place name override?) =
        .ok (some file)) :
    ComesTo files root (outer.entered override? file)
      ⟨place.path.push name, some file, some (childDirectory file)⟩

section

variable [Depths]

/-- A module is reached from a root by a nesting: by declarations that are
shown. -/
inductive ReachesBy (files : FileTree) (skipsHidden : Bool)
    (root : PlacedBody) : Nesting → PlacedBody → Prop where
  | root {file : DiskPath}
      (filed : root.1.file? = some file)
      (placed : root.1.directory? = some file.parent) :
    ReachesBy files skipsHidden root (.root file) root
  | body {nesting : Nesting} {outer : PlacedBody} {notes : List Note}
      {name : String} {visibility : Visibility} {body : List Declaration}
      (reached : ReachesBy files skipsHidden root nesting outer)
      (member : (notes, .module name visibility (some body)) ∈
        declarationsWithNotes [] outer.2)
      (shown : isShown skipsHidden notes = true) :
    ReachesBy files skipsHidden root (.body nesting name)
      (⟨outer.1.path.push name, outer.1.file?,
        outer.1.directory?.map (·.child name)⟩, body)
  | filed {nesting : Nesting} {outer : PlacedBody} {notes : List Note}
      {name : String} {visibility : Visibility} {file : DiskPath}
      {declarations : List Declaration}
      (reached : ReachesBy files skipsHidden root nesting outer)
      (member : (notes, .module name visibility none) ∈
        declarationsWithNotes [] outer.2)
      (shown : isShown skipsHidden notes = true)
      (known : loaded? files outer.1 name (said notes).file? =
        some (file, declarations)) :
    ReachesBy files skipsHidden root
      (nesting.entered (said notes).file? file)
      (⟨outer.1.path.push name, some file, some (childDirectory file)⟩,
        declarations)

variable
    {files : FileTree}
    {skipsHidden : Bool}
    {root place : Place}
    {nesting : Nesting}

omit [Depths] in
/-- A place has the file of its nesting and the directory that this tells. -/
theorem ComesTo.file_eq_and_directory_eq
    (comes : ComesTo files root nesting place) :
    place.file? = some nesting.file ∧
      place.directory? = some nesting.told := by
  induction comes with
  | root filed placed => exact ⟨filed, placed⟩
  | body comes name inductionStep =>
      refine ⟨inductionStep.1, ?_⟩
      rw [inductionStep.2]
      rfl
  | filed => simp

omit [Depths] in
theorem ComesTo.lookedAt_eq
    (comes : ComesTo files root nesting place)
    (name : String)
    (override? : Option WideText) :
    lookedAt place name override? =
      moduleFiles nesting.told nesting.file name override? := by
  obtain ⟨filed, placed⟩ := comes.file_eq_and_directory_eq
  rw [lookedAt, filed, placed]

/-- A module that is reached by a nesting is come to by it. -/
theorem ReachesBy.comesTo
    {start module : PlacedBody}
    (reached : ReachesBy files skipsHidden start nesting module) :
    ComesTo files start.1 nesting module.1 := by
  induction reached with
  | root filed placed => exact .root filed placed
  | body _ _ _ inductionStep => exact inductionStep.body _
  | filed _ _ _ known inductionStep =>
      obtain ⟨_, _, filed, placed, first, _⟩ := loaded?_eq_some_iff.1 known
      refine inductionStep.filed ?_
      rw [lookedAt, filed, placed]
      exact first

/-- The modules that are reached are those that are by some nesting. -/
theorem reaches_iff_exists_reachesBy
    {start module : PlacedBody}
    {file : DiskPath}
    (filed : start.1.file? = some file)
    (placed : start.1.directory? = some file.parent) :
    Reaches files skipsHidden start module ↔
      ∃ nesting, ReachesBy files skipsHidden start nesting module := by
  constructor
  · intro reaches
    induction reaches with
    | refl => exact ⟨_, .root filed placed⟩
    | tail _ encloses inductionStep =>
        obtain ⟨nesting, reached⟩ := inductionStep
        obtain @⟨notes, name, visibility, body, member, shown, opens⟩ :=
          encloses
        cases body with
        | some body =>
            cases opens
            exact ⟨_, reached.body member shown⟩
        | none =>
            obtain ⟨⟨path, declarations⟩, known, rfl⟩ :=
              Option.map_eq_some_iff.1 opens
            exact ⟨_, reached.filed member shown known⟩
  · rintro ⟨nesting, reached⟩
    induction reached with
    | root => exact .refl
    | body _ member shown inductionStep =>
        exact inductionStep.tail ⟨member, shown, rfl⟩
    | filed _ member shown known inductionStep =>
        exact inductionStep.tail
          ⟨member, shown, Option.map_eq_some_iff.2 ⟨_, known, rfl⟩⟩

/-! ## Files that are looked for -/

/-- Reads the declarations of a module from the first of some paths at which
there is a file; if there is none, it is told where it was looked for. -/
def loadFirst (files : FileTree) (path : ItemPath) (name : String)
    (paths told : List DiskPath) :
    Visit (Option (DiskPath × List Declaration)) := do
  let found? ← MonadExcept.ofExcept
    ((firstFile? files paths).mapError .disk)
  match found? with
  | none =>
    let looked := ", ".intercalate (told.map DiskPath.toText)
    report .warning "module_loader" ("Module " ++ name ++
      " not found (looked in " ++ looked ++ "); skipping its contents")
    return none
  | some found =>
    report .debug "visitor" ("Loading module " ++ path.toText ++ " from " ++
      found.toText)
    return some (found, ← MonadExcept.ofExcept (contentOf files found))

theorem ComesTo.loadModule_eq
    (comes : ComesTo files root nesting place)
    {basis : Basis}
    (same : basis.files = files)
    (path : ItemPath)
    (name : String)
    (override? : Option WideText) :
    loadModule basis place path name override? =
      loadFirst files path name (lookedAt place name override?)
        (toldAt place name override?) := by
  obtain ⟨filed, placed⟩ := comes.file_eq_and_directory_eq
  rw [Tree.loadModule_eq filed placed, same, comes.lookedAt_eq, toldAt,
    filed, placed]
  rfl

omit [Depths] in
/-- A module of a name is looked for in the directory that is told. -/
theorem ComesTo.lookedAt_none
    (comes : ComesTo files root nesting place)
    (name : String) :
    lookedAt place name none = filesNamed nesting.told name := by
  rw [comes.lookedAt_eq]
  rfl

omit [Depths] in
/-- An attribute counts if it names a file. -/
theorem ComesTo.lookedAt_some_eq_iff
    (comes : ComesTo files root nesting place)
    (name text : String) :
    lookedAt place name (some (.whole text)) =
        [nesting.file.parent.child text] ↔
      text ≠ "" := by
  rw [comes.lookedAt_eq, moduleFiles, Option.filter_some]
  by_cases empty : text = ""
  · subst empty
    simp
  · simp [empty, WideText.fileName?]

omit [Depths] in
/-- An attribute whose text cannot be encoded counts, whether or not it names
a file. -/
theorem ComesTo.lookedAt_torn
    (comes : ComesTo files root nesting place)
    (name : String)
    (text : TornText) :
    lookedAt place name (some (.torn text)) =
      ((WideText.torn text).fileName?.map
        nesting.file.parent.child).toList := by
  rw [comes.lookedAt_eq, moduleFiles, Option.filter_some]
  simp

/-! ## Modules that are looked for -/

/-- A visit that ends well has visited each module that is reached. -/
theorem exists_on_visitContainer_of_reaches
    {basis : Basis}
    {depth : Nat}
    {declarations : List Declaration}
    {inner : PlacedBody}
    {value : List WideText × Contents}
    {found later : Findings}
    (yields : on (visitContainer basis depth place declarations) found =
      (.ok value, later))
    (reaches : Reaches basis.files basis.skipsHidden (place, declarations)
      inner) :
    ∃ depth start value done,
      on (visitContainer basis depth inner.1 inner.2) start =
        (.ok value, done) := by
  induction reaches with
  | refl => exact ⟨_, _, _, _, yields⟩
  | tail _ encloses inductionStep =>
      obtain ⟨depth, _, _, _, visited⟩ := inductionStep
      cases depth with
      | zero => cases visited
      | succ depth =>
          exact ⟨_, exists_on_visitContainer_of_encloses visited encloses⟩

/-- A visit that ends well has looked for each module without a body. -/
theorem exists_on_loadModule
    {basis : Basis}
    {depth : Nat}
    {declarations : List Declaration}
    {value : List WideText × Contents}
    {found later : Findings}
    {notes : List Note}
    {name : String}
    {visibility : Visibility}
    (yields : on (visitContainer basis depth place declarations) found =
      (.ok value, later))
    (member : (notes, .module name visibility none) ∈
      declarationsWithNotes [] declarations)
    (shown : isShown basis.skipsHidden notes = true) :
    ∃ start loaded done,
      on (loadModule basis place (place.path.push name) name
        (said notes).file?) start = (.ok loaded, done) := by
  cases depth with
  | zero => cases yields
  | succ depth =>
      obtain ⟨_, _, _, visits⟩ := on_bind_eq_ok_iff.1 yields
      obtain ⟨_, _, visited, _⟩ := on_bind_eq_ok_iff.1 visits
      obtain ⟨_, _, _, entered⟩ := exists_on_visitModule visited member shown
      obtain ⟨_, _, loads, _⟩ := on_bind_eq_ok_iff.1 entered
      exact ⟨_, _, _, loads⟩

/--
The modules that are reached from a root file are reached by nestings and come
to by these.  Where the crate is read, each module without a body in one of them
is read from the first of the files that are looked at.  These are the due ones
unless the file of the declaration strays, and the one that an attribute names
if it names one; where its text cannot be encoded, that may be none.
-/
theorem looked_at_due_unless_stray
    (files : FileTree)
    (crate : CrateId)
    (skipsHidden : Bool)
    (rootFile : DiskPath)
    (declarations : List Declaration) :
    let root := rootPlace crate (some rootFile)
    (∀ module, Reaches files skipsHidden (root, declarations) module ↔
      ∃ nesting,
        ReachesBy files skipsHidden (root, declarations) nesting module) ∧
    (∀ nesting module,
      ReachesBy files skipsHidden (root, declarations) nesting module →
        ComesTo files root nesting module.1) ∧
    (∀ tree nesting module notes name visibility,
      treeOf files crate skipsHidden (some rootFile) declarations =
          .ok tree →
        ReachesBy files skipsHidden (root, declarations) nesting module →
        (notes, .module name visibility none) ∈
            declarationsWithNotes [] module.2 →
        isShown skipsHidden notes = true →
          ∃ start loaded done,
            on (loadFirst files (module.1.path.push name) name
              (lookedAt module.1 name (said notes).file?)
              (toldAt module.1 name (said notes).file?)) start =
                (.ok loaded, done)) ∧
    (∀ nesting place, ComesTo files root nesting place →
      (nesting.isStray = false →
        ∀ name, lookedAt place name none = nesting.due name) ∧
      (nesting.isStray = true →
        (∀ part ∈ nesting.names, '/' ∉ part.toList) →
          ∀ name, '/' ∉ name.toList →
            lookedAt place name none ≠ nesting.due name) ∧
      (∀ name text,
        lookedAt place name (some (.whole text)) =
            [nesting.file.parent.child text] ↔
          text ≠ "") ∧
      ∀ name text,
        lookedAt place name (some (.torn text)) =
          ((WideText.torn text).fileName?.map
            nesting.file.parent.child).toList) := by
  intro root
  have reaches_iff : ∀ module,
      Reaches files skipsHidden (root, declarations) module ↔
        ∃ nesting,
          ReachesBy files skipsHidden (root, declarations) nesting module :=
    fun _ => reaches_iff_exists_reachesBy rfl rfl
  refine ⟨reaches_iff, fun _ _ reached => reached.comesTo, ?_, ?_⟩
  · intro tree nesting module notes name visibility read reached member shown
    obtain ⟨_, _, visits⟩ := exists_on_visitContainer_of_treeOf read
    obtain ⟨_, _, _, _, visited⟩ := exists_on_visitContainer_of_reaches visits
      ((reaches_iff module).2 ⟨nesting, reached⟩)
    obtain ⟨start, loaded, done, loads⟩ :=
      exists_on_loadModule visited member shown
    rw [reached.comesTo.loadModule_eq rfl] at loads
    exact ⟨start, loaded, done, loads⟩
  · intro nesting place comes
    refine ⟨?_, ?_, comes.lookedAt_some_eq_iff, comes.lookedAt_torn⟩
    · intro orderly name
      rw [comes.lookedAt_none, Nesting.told_eq_owned orderly, Nesting.due]
    · intro stray slashFree name whole
      rw [comes.lookedAt_none, Nesting.due, ne_eq, filesNamed_left_inj whole]
      exact Nesting.told_ne_owned stray slashFree

end

/-! ## A file with a name of its own -/

/-- The root file of a crate, where an attribute names the file of a module. -/
def annexRoot : DiskPath := ⟨"", ["src", "lib.rs"]⟩

/-- The file that the attribute names, with a module without a body. -/
def annexFile : DiskPath := ⟨"", ["src", "other.rs"]⟩

/-- The files of the crate. -/
def annexFiles : FileTree :=
  ⟨[ (["src"], .directory),
    (["src", "lib.rs"],
      .file (Bytes.ofText "#[path = \"other.rs\"]\nmod a;\n")),
    (["src", "other.rs"], .file (Bytes.ofText "mod b;\n")),
    (["src", "b.rs"], .file (Bytes.ofText "pub fn f() \x7b\x7d\n")) ]⟩

/-- The place of the module with this file. -/
def annexPlace : Place :=
  ⟨(rootPlace sampleCrate (some annexRoot)).path.push "a", some annexFile,
    some (childDirectory annexFile)⟩

theorem comesTo_annexPlace :
    ComesTo annexFiles (rootPlace sampleCrate (some annexRoot))
      (.pointed (.root annexRoot) annexFile) annexPlace := by
  have first : firstFile? annexFiles
      (lookedAt (rootPlace sampleCrate (some annexRoot)) "a"
        (some (.whole "other.rs"))) = .ok (some annexFile) := rfl
  exact .filed (.root rfl rfl) first

attribute [local instance] Depths.usual in
theorem looked_at_due_unless_stray_annexFiles :
    lookedAt (rootPlace sampleCrate (some annexRoot)) "b" none =
        Nesting.due (.root annexRoot) "b" ∧
      lookedAt annexPlace "b" none ≠
        Nesting.due (.pointed (.root annexRoot) annexFile) "b" ∧
      lookedAt annexPlace "b" (some (.whole "b.rs")) =
        [⟨"", ["src", "b.rs"]⟩] := by
  obtain ⟨_, _, _, looked⟩ :=
    looked_at_due_unless_stray annexFiles sampleCrate true annexRoot []
  obtain ⟨orderly, _, _⟩ := looked _ _ (.root rfl rfl)
  obtain ⟨_, stray, pointed, _⟩ := looked _ _ comesTo_annexPlace
  exact ⟨orderly rfl "b", stray rfl (by decide) "b" (by decide),
    (pointed "b" "b.rs").2 (by decide)⟩

/-- A module is not always found among the files that it is due in. -/
theorem not_always_found_among_due :
    ¬ ∀ files crate rootFile nesting place name,
      ComesTo files (rootPlace crate (some rootFile)) nesting place →
        firstFile? files (lookedAt place name none) =
          firstFile? files (nesting.due name) := by
  intro claimed
  have same := claimed _ _ _ _ _ "b" comesTo_annexPlace
  have found : firstFile? annexFiles
      (Nesting.due (.pointed (.root annexRoot) annexFile) "b") =
        .ok (some ⟨"", ["src", "b.rs"]⟩) := rfl
  have lost :
      firstFile? annexFiles (lookedAt annexPlace "b" none) = .ok none := rfl
  rw [found, lost] at same
  cases same

end Tree

end CrateShelf
