import CrateShelf.Proofs.Disk.Reach
import CrateShelf.Proofs.Tree.Agreeing
import CrateShelf.Proofs.Tree.Files
import CrateShelf.Proofs.Tree.Reading

/-!
# Modules moved to files

A module may be written with its body or have the body in a file of its name.
Two crates are compared of which the second has some modules in files that
have bodies in the first, anywhere in its files and at any depth.

Main statement: both crates have the same records, or cannot be read for the
same reason.
-/

namespace CrateShelf.Tree

open Docs (Note)
open Source (Declaration)
open Visit

/-! ## Files with declarations -/

section

variable [Depths]

/-- The declarations of a file, or why there are none. -/
def contentOf (files : FileTree) (path : DiskPath) :
    Except TreeError (List Declaration) := do
  let text ← (readText files path).mapError (.unreadable path)
  (Source.parse text).mapError (.ofFault path.toText)

variable
    {basis : Basis}
    {place other : Place}
    {above owner : ItemPath}
    {name : String}
    {override? : Option WideText}
    {file directory path : DiskPath}
    {files moved : FileTree}

omit [Depths] in
theorem Visit.ofExcept_ok
    {α : Type}
    (value : α) :
    (MonadExcept.ofExcept (.ok value : Except TreeError α) : Visit α) =
      pure value := rfl

omit [Depths] in
theorem Visit.ofExcept_bind
    {α β : Type}
    (first : Except TreeError α)
    (next : α → Except TreeError β) :
    (MonadExcept.ofExcept (first >>= next) : Visit β) =
      MonadExcept.ofExcept first >>= fun value =>
        MonadExcept.ofExcept (next value) := by
  cases first with
  | error error => rfl
  | ok value => rfl

theorem contentOf_eq_ok_iff {body : List Declaration} :
    contentOf files path = .ok body ↔
      ∃ text, readText files path = .ok text ∧
        Source.parse text = .ok body := by
  rw [contentOf, bind_eq_ok_iff]
  simp only [mapError_eq_ok_iff]

/-- A module that is looked for in files is read from the first one. -/
theorem loadModule_eq
    (filed : place.file? = some file)
    (placed : place.directory? = some directory) :
    loadModule basis place owner name override? = (do
      let candidates := moduleFiles directory file name override?
      let found? ← MonadExcept.ofExcept
        ((firstFile? basis.files candidates).mapError .disk)
      match found? with
      | none =>
        let looked := ", ".intercalate
          ((toldFiles directory file name override?).map DiskPath.toText)
        report .warning "module_loader" ("Module " ++ name ++
          " not found (looked in " ++ looked ++ "); skipping its contents")
        return none
      | some found =>
        report .debug "visitor" ("Loading module " ++ owner.toText ++
          " from " ++ found.toText)
        return some (found,
          ← MonadExcept.ofExcept (contentOf basis.files found))) := by
  unfold loadModule
  simp only [filed, placed]
  refine bind_congr fun found? => ?_
  cases found? with
  | none => rfl
  | some found =>
      refine bind_congr fun _ => ?_
      rw [contentOf, ofExcept_bind, bind_assoc]
      rfl

omit [Depths] in
theorem isFile_of_firstFile?
    {paths : List DiskPath}
    (first : firstFile? files paths = .ok (some path)) :
    files.isFile path = .ok true := by
  induction paths with
  | nil => cases first
  | cons other paths inductionStep =>
      obtain ⟨isFile, known, found⟩ := bind_eq_ok_iff.1 first
      cases isFile with
      | true =>
          cases found
          exact known
      | false => exact inductionStep found

/-- Where declarations are read there is a file. -/
theorem isFile_of_contentOf
    {body : List Declaration}
    (content : contentOf files path = .ok body) :
    files.isFile path = .ok true := by
  obtain ⟨_, text, _⟩ := bind_eq_ok_iff.1 content
  obtain ⟨bytes, read, _⟩ := bind_eq_ok_iff.1 (mapError_eq_ok_iff.1 text)
  obtain ⟨address, found⟩ :=
    FileTree.read_eq_ok_iff.1 (mapError_eq_ok_iff.1 read)
  exact FileTree.isFile_eq_true_iff.2 ⟨address, bytes, found⟩

/-! ## Modules that are moved -/

/-- Declarations with notes are the same in two crates, whose modules stand in
one directory but perhaps not in one file, up to modules that the second crate
has in files.  Blocks may start elsewhere. -/
inductive Moves (files moved : FileTree) :
    (directory? file? otherFile? : Option DiskPath) →
      List (List Note × Declaration) → List (List Note × Declaration) →
        Prop where
  | nil {directory? file? otherFile? : Option DiskPath} :
    Moves files moved directory? file? otherFile? [] []
  | same {directory? file? otherFile? : Option DiskPath} {notes : List Note}
      {declaration : Declaration}
      {rest others : List (List Note × Declaration)}
      (noModule : isModule declaration = false)
      (more : Moves files moved directory? file? otherFile? rest others) :
    Moves files moved directory? file? otherFile?
      ((notes, declaration) :: rest) ((notes, declaration) :: others)
  | block {directory? file? otherFile? : Option DiskPath} {notes : List Note}
      {head : Source.ImplHead} {body : Option (List Declaration)}
      {rest others : List (List Note × Declaration)} (start : Nat)
      (more : Moves files moved directory? file? otherFile? rest others) :
    Moves files moved directory? file? otherFile?
      ((notes, .impl head body) :: rest)
      ((notes, .impl { head with start } body) :: others)
  /-- A module has a body in both crates. -/
  | inline {directory? file? otherFile? : Option DiskPath} {notes : List Note}
      {name : String} {visibility : Visibility}
      {body otherBody : List Declaration}
      {rest others : List (List Note × Declaration)}
      (sameNotes : body.filterMap Declaration.note? =
        otherBody.filterMap Declaration.note?)
      (within : Moves files moved (directory?.map (·.child name)) file?
        otherFile? (declarationsWithNotes [] body)
        (declarationsWithNotes [] otherBody))
      (more : Moves files moved directory? file? otherFile? rest others) :
    Moves files moved directory? file? otherFile?
      ((notes, .module name visibility (some body)) :: rest)
      ((notes, .module name visibility (some otherBody)) :: others)
  /-- A module is in the same file in both crates, if in any.  Where its notes
  name the file, this depends on where they are written. -/
  | filed {directory? file? otherFile? : Option DiskPath} {notes : List Note}
      {name : String} {visibility : Visibility}
      {rest others : List (List Note × Declaration)}
      (beside : (said notes).file? = none ∨
        file?.map DiskPath.parent = otherFile?.map DiskPath.parent)
      (sameFile : ∀ directory file, directory? = some directory →
        file? = some file →
          firstFile? moved
              (moduleFiles directory file name (said notes).file?) =
            firstFile? files
              (moduleFiles directory file name (said notes).file?))
      (more : Moves files moved directory? file? otherFile? rest others) :
    Moves files moved directory? file? otherFile?
      ((notes, .module name visibility none) :: rest)
      ((notes, .module name visibility none) :: others)
  /-- A module has a body in the first crate, and in the second a file of its
  name with this body. -/
  | moved {directory file otherFile : DiskPath} {notes : List Note}
      {name : String} {visibility : Visibility}
      {body otherBody : List Declaration}
      {rest others : List (List Note × Declaration)}
      (word : IsWord name) (foreign : name ∉ ownNames)
      (unnamed : (said notes).file? = none)
      (content : contentOf moved (directory.child (name ++ ".rs")) =
        .ok otherBody)
      (sameNotes : body.filterMap Declaration.note? =
        otherBody.filterMap Declaration.note?)
      (within : Moves files moved (some (directory.child name)) (some file)
        (some (directory.child (name ++ ".rs")))
        (declarationsWithNotes [] body)
        (declarationsWithNotes [] otherBody))
      (more : Moves files moved (some directory) (some file) (some otherFile)
        rest others) :
    Moves files moved (some directory) (some file) (some otherFile)
      ((notes, .module name visibility (some body)) :: rest)
      ((notes, .module name visibility none) :: others)

/-- The declarations of a module are the same in two crates up to modules that
are moved. -/
structure MovesBody (files moved : FileTree)
    (directory? file? otherFile? : Option DiskPath)
    (body otherBody : List Declaration) : Prop where
  sameNotes : body.filterMap Declaration.note? =
    otherBody.filterMap Declaration.note?
  moves : Moves files moved directory? file? otherFile?
    (declarationsWithNotes [] body) (declarationsWithNotes [] otherBody)

/-- A file that is read in two crates has the same declarations in both up to
modules that are moved. -/
def MovesFile (files moved : FileTree) (path : DiskPath)
    (body otherBody : List Declaration) : Prop :=
  MovesBody files moved (some (childDirectory path)) (some path) (some path)
    body otherBody

/-- Each file that two crates have has the same declarations in both up to
modules that are moved, or has none in both for the same reason. -/
def MovesFiles (files moved : FileTree) : Prop :=
  ∀ path, files.isFile path = .ok true → moved.isFile path = .ok true →
    (∃ error, contentOf files path = .error error ∧
      contentOf moved path = .error error) ∨
    ∃ body otherBody, contentOf files path = .ok body ∧
      contentOf moved path = .ok otherBody ∧
        MovesFile files moved path body otherBody

/-! ## Crates in which nothing is moved -/

variable
    {directory? file? otherFile? : Option DiskPath}

theorem moves_self
    {parts : List (List Note × Declaration)}
    (beside : file?.map DiskPath.parent = otherFile?.map DiskPath.parent)
    (inside : ∀ notes name visibility body,
      (notes, .module name visibility (some body)) ∈ parts →
        MovesBody files files (directory?.map (·.child name)) file?
          otherFile? body body) :
    Moves files files directory? file? otherFile? parts parts := by
  induction parts with
  | nil => exact .nil
  | cons part parts inductionStep =>
      have more := inductionStep fun notes name visibility body member =>
        inside notes name visibility body (List.mem_cons_of_mem _ member)
      obtain ⟨notes, declaration⟩ := part
      cases declaration with
      | module name visibility body =>
          cases body with
          | none => exact .filed (Or.inr beside) (fun _ _ _ _ => rfl) more
          | some body =>
              obtain ⟨sameNotes, within⟩ :=
                inside notes name visibility body List.mem_cons_self
              exact .inline sameNotes within more
      | _ => exact .same rfl more

/-- A body is the same wherever in a directory it is written. -/
theorem movesBody_self
    (beside : file?.map DiskPath.parent = otherFile?.map DiskPath.parent)
    (directory? : Option DiskPath)
    (body : List Declaration) :
    MovesBody files files directory? file? otherFile? body body :=
  ⟨rfl, moves_self beside fun _ name _ inner member =>
    have _ := sizeOf_lt_of_mem_declarationsWithNotes member
    movesBody_self beside (directory?.map (·.child name)) inner⟩
termination_by sizeOf body

theorem movesFiles_self (files : FileTree) : MovesFiles files files := by
  intro path _ _
  cases content : contentOf files path with
  | error error => exact Or.inl ⟨error, rfl, rfl⟩
  | ok body => exact Or.inr ⟨body, body, rfl, rfl, movesBody_self rfl _ body⟩

/-! ## Declarations that are visited in both crates -/

/-- Items and imports are the same, but for places on the disk. -/
def MadeAlike (made other : List Item × UseTable) : Prop :=
  bareAll made.1 = bareAll other.1 ∧ made.2 = other.2

/-- Contents are the same, but for places on the disk. -/
def ContentsAlike (contents other : Contents) : Prop :=
  bareAll contents.items = bareAll other.items ∧ contents.uses = other.uses

/-- What is read of a module is the same, but for places on the disk. -/
def ReadAlike (read other : List WideText × Contents) : Prop :=
  read.1 = other.1 ∧ ContentsAlike read.2 other.2

/-- Items are the same, but for places on the disk. -/
def ItemAlike (item other : Item) : Prop :=
  item.bare = other.bare

variable
    {visitModule visitOther : ModuleVisit}
    {uses : UseTable}
    {notes : List Note}
    {declaration : Declaration}
    {visibility : Visibility}
    {body otherBody : Option (List Declaration)}

omit [Depths] in
theorem madeAlike_refl (made : List Item × UseTable) : MadeAlike made made :=
  ⟨rfl, rfl⟩

omit [Depths] in
theorem agree_remarks_said (notes : List Note) :
    Agree (fun value like => value = said notes ∧ like = said notes)
      (remarks notes) (remarks notes) := by
  unfold remarks said
  cases Docs.Remarks.ofNotes .outer notes with
  | ok remarks => exact agree_pure ⟨rfl, rfl⟩
  | error error => exact agree_throw _

omit [Depths] in
theorem agree_visitNamed
    (same : place.path = other.path)
    (noModule : isModule declaration = false)
    (said : Docs.Remarks)
    (name : String) :
    Agree Eq (visitNamed basis place visitModule said name declaration)
      (visitNamed (basis.over moved) other visitOther said name
        declaration) := by
  unfold visitNamed
  rw [← same]
  refine (agree_isSkipped said _).bind_eq fun skipped => ?_
  refine agree_ite (agree_pure rfl) ?_
  cases declaration with
  | module name visibility body => cases noModule
  | _ => exact agree_plainItems _ _ _

/-- A block is visited alike wherever it starts. -/
theorem agree_visitPart_block
    {head : Source.ImplHead}
    {start : Nat}
    (same : place.path = other.path) :
    Agree MadeAlike
      (visitPart basis place visitModule uses notes (.impl head body))
      (visitPart (basis.over moved) other visitOther uses notes
        (.impl { head with start } body)) := by
  refine (agree_remarks notes).bind_eq fun said => ?_
  refine (agree_isSkipped said _).bind_eq fun skipped => ?_
  refine agree_ite (agree_pure (madeAlike_refl _)) ?_
  refine (agree_recordImpl same said.docs head start body).bind_eq fun _ => ?_
  exact agree_pure (madeAlike_refl _)

/-- What is no module is visited alike. -/
theorem agree_visitPart
    (same : place.path = other.path)
    (noModule : isModule declaration = false) :
    Agree MadeAlike
      (visitPart basis place visitModule uses notes declaration)
      (visitPart (basis.over moved) other visitOther uses notes
        declaration) := by
  have named : ∀ said name, Agree MadeAlike
      (visitNamed basis place visitModule said name declaration >>=
        fun items => pure (items, uses))
      (visitNamed (basis.over moved) other visitOther said name declaration
        >>= fun items => pure (items, uses)) := fun said name =>
    (agree_visitNamed same noModule said name).bind_eq fun _ =>
      agree_pure (madeAlike_refl _)
  cases declaration with
  | module name visibility body => cases noModule
  | impl head body => exact agree_visitPart_block same
  | importing text visibility tree =>
      refine (agree_remarks notes).bind_eq fun said => ?_
      dsimp only
      rw [← same]
      exact agree_ite (agree_throw _) (agree_pure (madeAlike_refl _))
  | foreign mark body =>
      refine (agree_remarks notes).bind_eq fun said => ?_
      refine (agree_abiOf mark).bind_eq fun abi => ?_
      refine (agree_foreignItems same _ _ _).bind_eq fun _ => ?_
      exact agree_pure (madeAlike_refl _)
  | note note | macroCall nameText text | statement =>
      refine (agree_remarks notes).bind_eq fun said => ?_
      exact agree_pure (madeAlike_refl _)
  | _ => exact (agree_remarks notes).bind_eq fun said => named said _

/-- A module is visited alike if it is read alike. -/
theorem agree_visitPart_module
    (same : place.path = other.path)
    (alike : Agree ItemAlike
      (visitModule (said notes) name visibility body)
      (visitOther (said notes) name visibility otherBody)) :
    Agree MadeAlike
      (visitPart basis place visitModule uses notes
        (.module name visibility body))
      (visitPart (basis.over moved) other visitOther uses notes
        (.module name visibility otherBody)) := by
  refine (agree_remarks_said notes).bind ?_
  rintro _ _ ⟨rfl, rfl⟩
  refine Agree.bind (R := fun items like => bareAll items = bareAll like) ?_
    fun items like sameItems => agree_pure ⟨sameItems, rfl⟩
  unfold visitNamed
  rw [← same]
  refine (agree_isSkipped _ _).bind_eq fun skipped => ?_
  refine agree_ite (agree_pure rfl) ?_
  exact alike.bind fun item like sameItem =>
    agree_pure (congrArg (fun bare => [bare]) sameItem)

/-- Declarations are visited alike if the first is and then the others. -/
theorem agree_visitParts_cons
    {part otherPart : List Note × Declaration}
    {rest others : List (List Note × Declaration)}
    (first : Agree MadeAlike
      (visitPart basis place visitModule uses part.1 part.2)
      (visitPart (basis.over moved) other visitOther uses otherPart.1
        otherPart.2))
    (more : ∀ uses, Agree ContentsAlike
      (visitParts basis place visitModule uses rest)
      (visitParts (basis.over moved) other visitOther uses others)) :
    Agree ContentsAlike
      (visitParts basis place visitModule uses (part :: rest))
      (visitParts (basis.over moved) other visitOther uses
        (otherPart :: others)) := by
  refine first.bind fun made like ⟨sameItems, sameUses⟩ => ?_
  rw [sameUses]
  refine (more _).bind fun contents later ⟨alsoItems, alsoUses⟩ =>
    agree_pure ⟨?_, alsoUses⟩
  rw [Contents.prepend, Contents.prepend, bareAll_append, bareAll_append,
    sameItems, alsoItems]

/-! ## Modules that are read in both crates -/

variable {depth : Nat}

/-- How modules are read in both crates in which modules are nested a number
of times at most. -/
def AgreeAt (basis : Basis) (moved : FileTree) (depth : Nat) : Prop :=
  ∀ {owner directory? file? otherFile? body otherBody},
    file?.isSome = otherFile?.isSome →
      MovesBody basis.files moved directory? file? otherFile? body
          otherBody →
        Agree ReadAlike
          (visitContainer basis depth ⟨owner, file?, directory?⟩ body)
          (visitContainer (basis.over moved) depth
            ⟨owner, otherFile?, directory?⟩ otherBody)

/-- Files in which modules are found are the same, and so are their
declarations up to modules that are moved. -/
def LoadedAlike (files moved : FileTree) :
    Option (DiskPath × List Declaration) →
      Option (DiskPath × List Declaration) → Prop :=
  Option.Rel fun loaded other =>
    loaded.1 = other.1 ∧
      MovesFile files moved loaded.1 loaded.2 other.2

omit [Depths] in
/-- A job may say something before it agrees. -/
theorem Visit.Agree.report_bind
    {α β : Type}
    {R : α → β → Prop}
    {job : Visit α}
    {later : Visit β}
    (agree : Agree R job later)
    (level : LogLevel)
    (source text : String) :
    Agree R job (report level source text >>= fun _ => later) :=
  fun _ _ alike => agree _ _ ⟨alike.impls_eq, alike.hidden_eq⟩

omit [Depths] in
/-- The files of a module are the same if those that declare it stand in one
directory, or if they are those of its name. -/
theorem moduleFiles_eq
    {otherFile : DiskPath}
    (beside : override? = none ∨ file.parent = otherFile.parent)
    (directory : DiskPath)
    (name : String) :
    moduleFiles directory file name override? =
      moduleFiles directory otherFile name override? := by
  rcases beside with rfl | sameParent
  · rfl
  · rw [moduleFiles, moduleFiles, sameParent]

theorem agree_loadModule
    (keeps : MovesFiles basis.files moved)
    (given : file?.isSome = otherFile?.isSome)
    (beside : override? = none ∨
      file?.map DiskPath.parent = otherFile?.map DiskPath.parent)
    (sameFile : ∀ directory file, directory? = some directory →
      file? = some file →
        firstFile? moved (moduleFiles directory file name override?) =
          firstFile? basis.files
            (moduleFiles directory file name override?)) :
    Agree (LoadedAlike basis.files moved)
      (loadModule basis ⟨above, file?, directory?⟩ owner name override?)
      (loadModule (basis.over moved) ⟨above, otherFile?, directory?⟩
        owner name override?) := by
  have nowhere : ∀ text : String, Agree (LoadedAlike basis.files moved)
      (report .warning "visitor" text >>= fun _ => pure none)
      (report .warning "visitor" text >>= fun _ => pure none) := fun text =>
    (agree_report _ _ _ _ _ _).bind_eq fun _ => agree_pure .none
  rcases file? with _ | file
  · rcases otherFile? with _ | otherFile
    · exact nowhere _
    · cases given
  rcases otherFile? with _ | otherFile
  · cases given
  rcases directory? with _ | directory
  · exact nowhere _
  have sameFiles := moduleFiles_eq (beside.imp_right Option.some.inj)
    directory name
  have found := sameFile directory file rfl rfl
  rw [loadModule_eq rfl rfl, loadModule_eq rfl rfl, ← sameFiles,
    basis.files_over]
  dsimp only
  rw [found]
  refine (agree_ofExcept_self _).bind ?_
  rintro path? _ ⟨rfl, first⟩
  rw [mapError_eq_ok_iff] at first
  cases path? with
  | none => exact (agree_report _ _ _ _ _ _).bind_eq fun _ => agree_pure .none
  | some path =>
      refine (agree_report _ _ _ _ _ _).bind_eq fun _ => ?_
      refine Agree.bind (R := MovesFile basis.files moved path)
        (agree_ofExcept ?_) fun body otherBody moves =>
          agree_pure (.some ⟨rfl, moves⟩)
      exact keeps path (isFile_of_firstFile? first)
        (isFile_of_firstFile? (found.trans first))

/-- A module is loaded from the file of its name if there is one. -/
theorem loadModule_of_isFile
    (isFile : basis.files.isFile (directory.child (name ++ ".rs")) =
      .ok true)
    (filed : place.file? = some file)
    (placed : place.directory? = some directory) :
    loadModule basis place owner name none = (do
      report .debug "visitor" ("Loading module " ++ owner.toText ++
        " from " ++ (directory.child (name ++ ".rs")).toText)
      return some (directory.child (name ++ ".rs"),
        ← MonadExcept.ofExcept
          (contentOf basis.files (directory.child (name ++ ".rs"))))) := by
  have first : firstFile? basis.files
      (moduleFiles directory file name none) =
        .ok (some (directory.child (name ++ ".rs"))) := by
    rw [moduleFiles, Option.filter_none, firstFile?, isFile]
    rfl
  rw [loadModule_eq filed placed]
  dsimp only
  rw [first, Except.mapError, ofExcept_ok, pure_bind]

omit [Depths] in
/-- Modules are made alike of what is read alike. -/
theorem agree_build
    {read otherRead : Visit (List WideText × Contents)}
    (alike : Agree ReadAlike read otherRead)
    (head : List WideText → Head) :
    Agree ItemAlike
      (read >>= fun (inner, contents) => pure (.module (head inner)
        { file?, uses := contents.uses } contents.items))
      (otherRead >>= fun (inner, contents) => pure (.module (head inner)
        { file? := otherFile?, uses := contents.uses } contents.items)) := by
  refine alike.bind ?_
  rintro ⟨docs, contents⟩ ⟨_, later⟩ ⟨rfl, sameItems, sameUses⟩
  refine agree_pure ?_
  dsimp only at sameItems sameUses ⊢
  rw [ItemAlike, Item.bare, Item.bare, ModuleInfo.bare, ModuleInfo.bare,
    sameItems, sameUses]

theorem agree_moduleVisit_inline
    {body otherBody : List Declaration}
    (within : AgreeAt basis moved depth)
    (given : file?.isSome = otherFile?.isSome)
    (moves : MovesBody basis.files moved (directory?.map (·.child name))
      file? otherFile? body otherBody)
    (said : Docs.Remarks) :
    Agree ItemAlike
      (moduleVisit basis depth ⟨owner, file?, directory?⟩ said name
        visibility (some body))
      (moduleVisit (basis.over moved) depth ⟨owner, otherFile?, directory?⟩
        said name visibility (some otherBody)) :=
  agree_build (within given moves)
    fun inner => ⟨name, owner.push name, visibility, said.docs ++ inner⟩

theorem agree_moduleVisit_filed
    {said : Docs.Remarks}
    (keeps : MovesFiles basis.files moved)
    (within : AgreeAt basis moved depth)
    (given : file?.isSome = otherFile?.isSome)
    (beside : said.file? = none ∨
      file?.map DiskPath.parent = otherFile?.map DiskPath.parent)
    (sameFile : ∀ directory file, directory? = some directory →
      file? = some file →
        firstFile? moved (moduleFiles directory file name said.file?) =
          firstFile? basis.files
            (moduleFiles directory file name said.file?)) :
    Agree ItemAlike
      (moduleVisit basis depth ⟨owner, file?, directory?⟩ said name
        visibility none)
      (moduleVisit (basis.over moved) depth ⟨owner, otherFile?, directory?⟩
        said name visibility none) := by
  refine (agree_loadModule keeps given beside sameFile).bind ?_
  intro loaded other alike
  cases alike with
  | @some loaded other alike =>
      obtain ⟨path, body⟩ := loaded
      obtain ⟨_, otherBody⟩ := other
      obtain ⟨sameFile, moves⟩ := alike
      cases sameFile
      exact agree_build (within rfl moves)
        fun inner => ⟨name, owner.push name, visibility, said.docs ++ inner⟩
  | none => exact agree_pure rfl

theorem agree_moduleVisit_moved
    {said : Docs.Remarks}
    {otherFile : DiskPath}
    {body otherBody : List Declaration}
    (within : AgreeAt basis moved depth)
    (word : IsWord name)
    (foreign : name ∉ ownNames)
    (unnamed : said.file? = none)
    (content : contentOf moved (directory.child (name ++ ".rs")) =
      .ok otherBody)
    (moves : MovesBody basis.files moved (some (directory.child name))
      (some file) (some (directory.child (name ++ ".rs"))) body otherBody) :
    Agree ItemAlike
      (moduleVisit basis depth ⟨owner, some file, some directory⟩ said name
        visibility (some body))
      (moduleVisit (basis.over moved) depth
        ⟨owner, some otherFile, some directory⟩ said name visibility
        none) := by
  change Agree ItemAlike
    (visitContainer basis depth
      ⟨owner.push name, some file, some (directory.child name)⟩ body >>= _)
    (loadModule (basis.over moved) ⟨owner, some otherFile, some directory⟩
      (owner.push name) name said.file? >>= _)
  have loads : loadModule (basis.over moved)
      ⟨owner, some otherFile, some directory⟩ (owner.push name) name none =
        _ :=
    loadModule_of_isFile (isFile_of_contentOf content) rfl rfl
  rw [unnamed, loads, bind_assoc, basis.files_over, content, ofExcept_ok,
    pure_bind]
  refine Agree.report_bind ?_ _ _ _
  rw [pure_bind]
  dsimp only
  rw [childDirectory_file word foreign]
  have given : (some file).isSome =
      (some (directory.child (name ++ ".rs"))).isSome := rfl
  exact agree_build (within given moves)
    fun inner => ⟨name, owner.push name, visibility, said.docs ++ inner⟩

/-- Modules are visited alike up to modules that are moved. -/
theorem agree_visitParts
    {parts others : List (List Note × Declaration)}
    (keeps : MovesFiles basis.files moved)
    (within : AgreeAt basis moved depth)
    (given : file?.isSome = otherFile?.isSome)
    (moves : Moves basis.files moved directory? file? otherFile? parts
      others)
    (uses : UseTable) :
    Agree ContentsAlike
      (visitParts basis ⟨owner, file?, directory?⟩
        (moduleVisit basis depth ⟨owner, file?, directory?⟩) uses parts)
      (visitParts (basis.over moved) ⟨owner, otherFile?, directory?⟩
        (moduleVisit (basis.over moved) depth
          ⟨owner, otherFile?, directory?⟩) uses others) := by
  induction moves generalizing uses with
  | nil => exact agree_pure ⟨rfl, rfl⟩
  | same noModule _ inductionStep =>
      exact agree_visitParts_cons (agree_visitPart rfl noModule)
        (inductionStep given)
  | block start _ inductionStep =>
      exact agree_visitParts_cons (agree_visitPart_block rfl)
        (inductionStep given)
  | inline sameNotes inside _ _ inductionStep =>
      refine agree_visitParts_cons ?_ (inductionStep given)
      refine agree_visitPart_module rfl ?_
      exact agree_moduleVisit_inline within given ⟨sameNotes, inside⟩ _
  | filed beside sameFile _ inductionStep =>
      refine agree_visitParts_cons ?_ (inductionStep given)
      refine agree_visitPart_module rfl ?_
      exact agree_moduleVisit_filed keeps within given beside sameFile
  | moved word foreign unnamed content sameNotes inside _ _ inductionStep =>
      refine agree_visitParts_cons ?_ (inductionStep given)
      refine agree_visitPart_module rfl ?_
      exact agree_moduleVisit_moved within word foreign unnamed content
        ⟨sameNotes, inside⟩

omit [Depths] in
theorem agree_innerDocs_of_same
    {body otherBody : List Declaration}
    (sameNotes : body.filterMap Declaration.note? =
      otherBody.filterMap Declaration.note?) :
    Agree Eq (innerDocs body) (innerDocs otherBody) := by
  have same : innerDocs body = innerDocs otherBody := by
    rw [innerDocs, sameNotes]
    rfl
  exact same ▸ agree_innerDocs body

/-- A module is read alike up to modules that are moved. -/
theorem agreeAt
    (keeps : MovesFiles basis.files moved)
    (depth : Nat) :
    AgreeAt basis moved depth := by
  induction depth with
  | zero => exact fun _ _ => agree_throw _
  | succ depth inductionStep =>
      intro owner directory? file? otherFile? body otherBody given moves
      rw [visitContainer_succ, visitContainer_succ]
      refine (agree_innerDocs_of_same moves.sameNotes).bind_eq fun docs => ?_
      refine (agree_visitParts keeps inductionStep given moves.moves []).bind
        fun contents like alike => ?_
      exact agree_pure ⟨rfl, alike⟩

/-! ## Whole crates -/

variable
    {declarations otherDeclarations : List Declaration}

theorem agree_visitRoot
    (keeps : MovesFiles basis.files moved)
    (moves : MovesBody basis.files moved (file?.map DiskPath.parent) file?
      file? declarations otherDeclarations) :
    Agree (fun tree other => tree.bare = other.bare)
      (visitRoot basis file? declarations)
      (visitRoot (basis.over moved) file? otherDeclarations) := by
  refine (agreeAt keeps Depths.modules rfl moves).bind ?_
  rintro ⟨docs, contents⟩ ⟨_, later⟩ ⟨rfl, sameItems, sameUses⟩
  refine agree_get.bind fun found like alike => agree_pure ?_
  dsimp only at sameItems sameUses ⊢
  rw [CrateTree.bare, CrateTree.bare, ModuleInfo.bare, ModuleInfo.bare,
    sameItems, sameUses, alike.impls_eq, alike.hidden_eq]
  rfl

/--
Two crates are the same but for modules, anywhere in their files and at any
depth, that have a body in the first and in the second a file of their name
with this body; the files that both have are the same in this sense, too.
Then both have the same records in the same order, or cannot be read for the
same reason.
-/
theorem records_eq_of_movesBody
    (keeps : MovesFiles files moved)
    (moves : MovesBody files moved (file?.map DiskPath.parent) file? file?
      declarations otherDeclarations)
    (crate : CrateId)
    (skipsHidden : Bool) :
    ((treeOf files crate skipsHidden file? declarations).map fun tree =>
        (records crate tree).1) =
      ((treeOf moved crate skipsHidden file? otherDeclarations).map
        fun tree => (records crate tree).1) ∧
    ∀ text otherText,
      Source.parse text = .ok declarations →
        Source.parse otherText = .ok otherDeclarations →
          (document files crate skipsHidden text file?).1 =
            (document moved crate skipsHidden otherText file?).1 := by
  have same : ((treeOf files crate skipsHidden file? declarations).map
        fun tree => (records crate tree).1) =
      ((treeOf moved crate skipsHidden file? otherDeclarations).map
        fun tree => (records crate tree).1) := by
    let basis : Basis :=
      ⟨files, (rootPlace crate file?).path, skipsHidden⟩
    have agree : Agree (fun tree other => tree.bare = other.bare)
        (visitRoot basis file? declarations)
        (visitRoot (basis.over moved) file? otherDeclarations) :=
      agree_visitRoot keeps moves
    have ends := agree {} {} ⟨rfl, rfl⟩
    change (on (visitRoot basis file? declarations) {}).1.map _ =
      (on (visitRoot (basis.over moved) file? otherDeclarations) {}).1.map _
    generalize on (visitRoot basis file? declarations) {} = read at ends ⊢
    generalize on (visitRoot (basis.over moved) file? otherDeclarations) {} =
      other at ends ⊢
    cases ends with
    | error error found like => rfl
    | ok sameTree alike =>
        exact congrArg Except.ok (records_fst_congr sameTree crate)
  refine ⟨same, fun text otherText parsed otherParsed => ?_⟩
  rw [document_of_parse parsed, document_of_parse otherParsed, same]

end

/-! ## A crate with a module in a file -/

/-- The directory of the crate. -/
def ferryDirectory : DiskPath := ⟨"", ["src"]⟩

/-- The root file of the crate. -/
def ferryRoot : DiskPath := ferryDirectory.child "lib.rs"

/-- The file of the module. -/
def ferryFile : DiskPath := ferryDirectory.child "ferry.rs"

/-- The text of the module. -/
def ferryText : String :=
  "//! Crosses.\npub struct Ferry;\nimpl Ferry \x7b\x7d\nmod deck;\n"

/-- What is declared in the text of the module. -/
def ferryBody : List Declaration :=
  [ .note (.lineComment "//! Crosses.\n".toList),
    .struct "Ferry" .everywhere .unit,
    .impl ⟨"Ferry", none, false, 31⟩ (some []),
    .module "deck" .inherited none ]

/-- The files of the crate but for the root file. -/
def ferryFiles : FileTree :=
  ⟨[ (["src"], .directory),
    (["src", "ferry.rs"], .file (Bytes.ofText ferryText))]⟩

/-- The declarations of the root file, with the body of the module or
without. -/
def ferryCrate (body? : Option (List Declaration)) : List Declaration :=
  [ .module "ferry" .everywhere body?,
    .struct "Dock" .everywhere .unit ]

section

attribute [local instance] Depths.usual

/-- The records of the crate. -/
def ferryRecords (body? : Option (List Declaration)) :
    Except TreeError (List Record) :=
  (treeOf ferryFiles sampleCrate true (some ferryRoot)
    (ferryCrate body?)).map fun tree => (records sampleCrate tree).1

theorem readText_ferryFiles :
    readText ferryFiles ferryFile = .ok ferryText :=
  readText_of_read rfl (by decide +kernel)

/-- What is read of the crate where the module has a body. -/
def ferryTree : CrateTree where
  head := ⟨"krate", ⟨["krate"]⟩, .everywhere, []⟩
  info := { isRoot := true, file? := some ferryRoot }
  items :=
    [ .module
        ⟨"ferry", ⟨["krate", "ferry"]⟩, .everywhere, [.whole "Crosses."]⟩
        { file? := some ferryRoot }
        [ .struct ⟨"Ferry", ⟨["krate", "ferry", "Ferry"]⟩, .everywhere, []⟩
            [] false,
          .impl 0,
          .module ⟨"deck", ⟨["krate", "ferry", "deck"]⟩, .inherited, []⟩
            { file? := some ferryRoot } [] ],
      .struct ⟨"Dock", ⟨["krate", "Dock"]⟩, .everywhere, []⟩ [] false ]
  impls :=
    [ { modulePath := ⟨["krate", "ferry"]⟩, targetText := "Ferry"
        traitText := none, safety := .normal, items := [], docs := []
        file? := some ferryRoot, start := 31, order := 0 } ]
  hidden := []

theorem treeOf_ferryCrate :
    treeOf ferryFiles sampleCrate true (some ferryRoot)
        (ferryCrate (some ferryBody)) = .ok ferryTree := rfl

/-- The file of the module can be read, and if its text is parsed to what is
declared in it, which takes the table of the whole grammar, the crate has the
same records whether the module has a body or is read from the file. -/
theorem records_eq_of_movesBody_ferryCrate :
    readText ferryFiles ferryFile = .ok ferryText ∧
      (Source.parse ferryText = .ok ferryBody →
        ferryRecords (some ferryBody) =
            .ok (records sampleCrate ferryTree).1 ∧
          ferryRecords none = .ok (records sampleCrate ferryTree).1) := by
  refine ⟨readText_ferryFiles, fun parsed => ?_⟩
  have content : contentOf ferryFiles ferryFile = .ok ferryBody :=
    contentOf_eq_ok_iff.2 ⟨ferryText, readText_ferryFiles, parsed⟩
  have word : IsWord "ferry" := ⟨by decide, by decide, by decide⟩
  have beside : (some ferryRoot).map DiskPath.parent =
      (some ferryFile).map DiskPath.parent := by
    decide
  have moves : MovesBody ferryFiles ferryFiles (some ferryDirectory)
      (some ferryRoot) (some ferryRoot) (ferryCrate (some ferryBody))
      (ferryCrate none) :=
    ⟨rfl, .moved word (by decide) rfl content rfl
      (movesBody_self beside _ ferryBody).moves (.same rfl .nil)⟩
  have placed : some ferryDirectory = (some ferryRoot).map DiskPath.parent :=
    by decide
  rw [placed] at moves
  have whole : ferryRecords (some ferryBody) =
      .ok (records sampleCrate ferryTree).1 := by
    rw [ferryRecords, treeOf_ferryCrate]
    rfl
  have same : ferryRecords (some ferryBody) = ferryRecords none := by
    rw [ferryRecords, ferryRecords]
    exact (records_eq_of_movesBody (movesFiles_self ferryFiles) moves
      sampleCrate true).1
  exact ⟨whole, same ▸ whole⟩

end

end CrateShelf.Tree
