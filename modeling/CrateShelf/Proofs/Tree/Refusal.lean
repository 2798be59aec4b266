import CrateShelf.Proofs.Disk.Reach
import CrateShelf.Proofs.Docs.Literal
import CrateShelf.Proofs.Tree.Reading

/-!
# Why crates cannot be read

A crate that cannot be read has a module at fault, in the root file or in a
file that is read from there: a literal in it has no value, an import of it is
too long, a module that it declares cannot be loaded, or it is nested too
deeply.

Main statement: when the visit of a crate fails, it fails with an error for
which there is such a module.
-/

namespace CrateShelf.Tree

open Docs (Note)
open Source (Declaration Noted)
open Visit

/-! ## Jobs that may fail -/

namespace Visit

variable
    {α β : Type}
    {Cause Other : TreeError → Prop}

/-- Whether there is a cause for each error that a job fails with. -/
def Fails (job : Visit α) (Cause : TreeError → Prop) : Prop :=
  ∀ found error later, on job found = (.error error, later) → Cause error

theorem fails_pure (value : α) : Fails (pure value) Cause := by
  intro found error later ends
  cases ends

theorem fails_throw
    {error : TreeError}
    (cause : Cause error) :
    Fails (throw error : Visit α) Cause := by
  intro found other later ends
  cases ends
  exact cause

theorem fails_modify (change : Findings → Findings) :
    Fails (modify change : Visit Unit) Cause := by
  intro found error later ends
  cases ends

theorem fails_get : Fails get Cause := by
  intro found error later ends
  cases ends

theorem fails_report (level : LogLevel) (source text : String) :
    Fails (report level source text) Cause :=
  fails_modify _

theorem fails_ofExcept
    {result : Except TreeError α}
    (cause : ∀ error, result = .error error → Cause error) :
    Fails (MonadExcept.ofExcept result) Cause := by
  intro found error later ends
  rw [on_ofExcept] at ends
  exact cause error (congrArg Prod.fst ends)

theorem Fails.mono
    {job : Visit α}
    (fails : job.Fails Cause)
    (weaker : ∀ error, Cause error → Other error) :
    job.Fails Other :=
  fun found error later ends => weaker error (fails found error later ends)

/-- One job after another. -/
theorem Fails.bind
    {job : Visit α}
    {next : α → Visit β}
    (first : job.Fails Cause)
    (then_ : ∀ value found later, on job found = (.ok value, later) →
      (next value).Fails Cause) :
    (job >>= next).Fails Cause := by
  intro found error later ends
  rw [on_bind] at ends
  split at ends
  · rename_i value middle done
    exact then_ value found middle done _ _ _ ends
  · rename_i other middle failed
    cases ends
    exact first found error _ failed

end Visit

/-! ## Literals without a value -/

/-- Whether an error is that of one of some literals. -/
def IsOfLiteral (literals : List (List Char)) (error : TreeError) : Prop :=
  ∃ literal ∈ literals, ∃ cause,
    Docs.literalValue literal = .error cause ∧ error = .literal cause

theorem IsOfLiteral.of_subset
    {literals more : List (List Char)}
    {error : TreeError}
    (isOf : IsOfLiteral literals error)
    (among : literals ⊆ more) :
    IsOfLiteral more error := by
  rcases isOf with ⟨literal, member, cause, none, same⟩
  exact ⟨literal, among member, cause, none, same⟩

theorem Visit.Fails.of_subset
    {α : Type}
    {job : Visit α}
    {literals more : List (List Char)}
    (fails : job.Fails (IsOfLiteral literals))
    (among : literals ⊆ more) :
    job.Fails (IsOfLiteral more) :=
  fails.mono fun _ isOf => isOf.of_subset among

/-- The literals in notes. -/
def literalsIn (notes : List Note) : List (List Char) :=
  notes.filterMap Docs.literalOf?

/-- The literals in the notes of parts. -/
def partLiterals {α : Type} (parts : List (Noted α)) : List (List Char) :=
  parts.flatMap fun
    | .note note => literalsIn [note]
    | .part _ => []

/-- The literals in the marks of a function. -/
def headLiterals (head : Source.FunctionHead) : List (List Char) :=
  head.externMarks.flatMap (·.literal.toList)

/-- The literals in an item of a body. -/
def itemLiterals : Declaration → List (List Char)
  | .note note => literalsIn [note]
  | .function head => headLiterals head
  | _ => []

/-- The literals in a declaration, but for those in the body of a module. -/
def literalsOf : Declaration → List (List Char)
  | .note note => literalsIn [note]
  | .function head => headLiterals head
  | .struct _ _ (.named parts) | .struct _ _ (.ordered parts) =>
    partLiterals parts
  | .enum _ _ parts => partLiterals parts
  | .trait _ _ _ body => body.flatMap itemLiterals
  | .impl _ body => (body.getD []).flatMap itemLiterals
  | .foreign mark body =>
    mark.literal.toList ++ (body.getD []).flatMap itemLiterals
  | _ => []

variable
    {basis : Basis}
    {place : Place}
    {literals : List (List Char)}

theorem literalsIn_concat_subset
    {notes : List Note}
    {note : Note}
    (before : literalsIn notes ⊆ literals)
    (here : literalsIn [note] ⊆ literals) :
    literalsIn (notes ++ [note]) ⊆ literals := by
  have both :
      literalsIn (notes ++ [note]) = literalsIn notes ++ literalsIn [note] :=
    List.filterMap_append
  rw [both]
  exact List.append_subset.2 ⟨before, here⟩

/-- The notes of declarations are among them, or go before them. -/
theorem literalsIn_subset_of_mem
    {pending : List Note}
    {declarations : List Declaration}
    {part : List Note × Declaration}
    (member : part ∈ declarationsWithNotes pending declarations)
    (before : literalsIn pending ⊆ literals)
    (among : declarations.flatMap literalsOf ⊆ literals) :
    literalsIn part.1 ⊆ literals := by
  fun_induction declarationsWithNotes pending declarations with
  | case1 pending => cases member
  | case2 pending text rest inductionStep =>
      rw [List.flatMap_cons, List.append_subset] at among
      exact inductionStep member before among.2
  | case3 pending note rest notInner inductionStep =>
      rw [List.flatMap_cons, List.append_subset] at among
      exact inductionStep member (literalsIn_concat_subset before among.1)
        among.2
  | case4 pending declaration rest notInner notNote inductionStep =>
      rw [List.flatMap_cons, List.append_subset] at among
      rcases List.mem_cons.1 member with rfl | later
      · exact before
      · exact inductionStep later (List.nil_subset _) among.2

theorem fails_remarks (notes : List Note) :
    (remarks notes).Fails (IsOfLiteral (literalsIn notes)) := by
  unfold remarks
  split
  · exact fails_pure _
  · rename_i error unread
    rcases Docs.Remarks.literal_of_ofNotes unread with
      ⟨literal, member, none⟩
    exact fails_throw ⟨literal, member, error, none, rfl⟩

theorem fails_abiOf (mark : Source.ExternMark) :
    (abiOf mark).Fails (IsOfLiteral mark.literal.toList) := by
  unfold abiOf
  split
  · exact fails_pure _
  · rename_i literal marked
    split
    · exact fails_pure _
    · rename_i error none
      rw [marked]
      exact fails_throw
        ⟨literal, List.mem_singleton_self _, error, none, rfl⟩

theorem fails_lastAbi (usual : Abi) (marks : List Source.ExternMark) :
    (lastAbi usual marks).Fails
      (IsOfLiteral (marks.flatMap (·.literal.toList))) := by
  unfold lastAbi
  induction marks generalizing usual with
  | nil => exact fails_pure _
  | cons mark marks inductionStep =>
      rw [List.foldlM_cons, List.flatMap_cons]
      apply Fails.bind
      · exact (fails_abiOf mark).of_subset (List.subset_append_left _ _)
      · intro abi found later _
        exact (inductionStep abi).of_subset (List.subset_append_right _ _)

theorem fails_signature (kind : FnKind) (usual : Abi)
    (head : Source.FunctionHead) :
    (signature kind usual head).Fails (IsOfLiteral (headLiterals head)) :=
  (fails_lastAbi usual head.externMarks).bind fun _ _ _ _ => fails_pure _

theorem fails_gather
    {α β : Type}
    {build : α → Docs.Remarks → β}
    {pending : List Note}
    {parts : List (Noted α)}
    (before : literalsIn pending ⊆ literals)
    (among : partLiterals parts ⊆ literals) :
    (gather basis build pending parts).Fails (IsOfLiteral literals) := by
  induction parts generalizing pending with
  | nil => exact fails_pure _
  | cons part parts inductionStep =>
      rw [partLiterals, List.flatMap_cons, List.append_subset] at among
      cases part with
      | note note =>
          exact inductionStep (literalsIn_concat_subset before among.1)
            among.2
      | part value =>
          rw [gather]
          refine ((fails_remarks pending).of_subset before).bind ?_
          intro said found later _
          refine (inductionStep (List.nil_subset _) among.2).bind ?_
          intro others found later _
          split
          · exact fails_pure _
          · exact fails_pure _

theorem fails_assocItem? (kind : FnKind) (docs : List WideText)
    (declaration : Declaration) :
    (assocItem? kind docs declaration).Fails
      (IsOfLiteral (itemLiterals declaration)) := by
  cases declaration with
  | function head =>
      exact (fails_signature kind .rust head).bind fun _ _ _ _ => fails_pure _
  | _ => exact fails_pure _

theorem fails_assocItems
    {kind : FnKind}
    {pending : List Note}
    {declarations : List Declaration}
    (before : literalsIn pending ⊆ literals)
    (among : declarations.flatMap itemLiterals ⊆ literals) :
    (assocItems basis kind pending declarations).Fails
      (IsOfLiteral literals) := by
  fun_induction assocItems basis kind pending declarations with
  | case1 pending => exact fails_pure _
  | case2 pending text rest inductionStep =>
      rw [List.flatMap_cons, List.append_subset] at among
      refine ((fails_remarks pending).of_subset before).bind ?_
      intro said found later _
      exact inductionStep (List.nil_subset _) among.2
  | case3 pending note rest notInner inductionStep =>
      rw [List.flatMap_cons, List.append_subset] at among
      exact inductionStep (literalsIn_concat_subset before among.1) among.2
  | case4 pending declaration rest notInner notNote inductionStep =>
      rw [List.flatMap_cons, List.append_subset] at among
      have others := inductionStep (List.nil_subset _) among.2
      refine ((fails_remarks pending).of_subset before).bind ?_
      intro said found later _
      split
      · exact others
      · refine ((fails_assocItem? _ _ _).of_subset among.1).bind ?_
        intro item found later _
        exact others.bind fun _ _ _ _ => fails_pure _

theorem fails_isSkipped
    {Cause : TreeError → Prop}
    (said : Docs.Remarks)
    (path? : Option ItemPath) :
    (isSkipped basis said path?).Fails Cause := by
  unfold isSkipped
  split
  · cases path? with
    | none => exact (fails_report _ _ _).bind fun _ _ _ _ => fails_pure _
    | some path =>
        exact (fails_modify _).bind fun _ _ _ _ =>
          (fails_report _ _ _).bind fun _ _ _ _ => fails_pure _
  · exact fails_pure _

theorem fails_foreignItems
    {abi : Abi}
    {pending : List Note}
    {declarations : List Declaration}
    (before : literalsIn pending ⊆ literals)
    (among : declarations.flatMap itemLiterals ⊆ literals) :
    (foreignItems basis place abi pending declarations).Fails
      (IsOfLiteral literals) := by
  fun_induction foreignItems basis place abi pending declarations with
  | case1 pending => exact fails_pure _
  | case2 pending text rest inductionStep =>
      rw [List.flatMap_cons, List.append_subset] at among
      exact inductionStep (List.nil_subset _) among.2
  | case3 pending note rest notInner inductionStep =>
      rw [List.flatMap_cons, List.append_subset] at among
      exact inductionStep (literalsIn_concat_subset before among.1) among.2
  | case4 pending head rest inductionStep =>
      rw [List.flatMap_cons, List.append_subset] at among
      have others := inductionStep (List.nil_subset _) among.2
      refine ((fails_remarks pending).of_subset before).bind ?_
      intro said found later _
      dsimp only
      refine (fails_isSkipped _ _).bind ?_
      intro skipped found later _
      split
      · exact others
      · refine ((fails_signature _ _ head).of_subset among.1).bind ?_
        intro signature found later _
        exact others.bind fun _ _ _ _ => fails_pure _
  | case5 pending declaration rest notInner notNote notFunction
      inductionStep =>
      rw [List.flatMap_cons, List.append_subset] at among
      exact inductionStep (List.nil_subset _) among.2

theorem fails_recordImpl
    {docs : List WideText}
    {head : Source.ImplHead}
    {body : Option (List Declaration)} :
    (recordImpl basis place docs head body).Fails
      (IsOfLiteral (literalsOf (.impl head body))) := by
  unfold recordImpl
  refine (fails_assocItems (List.nil_subset _) (List.Subset.refl _)).bind ?_
  intro items found later _
  refine fails_get.bind ?_
  intro known found later _
  exact (fails_modify _).bind fun _ _ _ _ => fails_pure _

theorem fails_plainItems
    {path : ItemPath}
    {docs : List WideText}
    {declaration : Declaration} :
    (plainItems basis path docs declaration).Fails
      (IsOfLiteral (literalsOf declaration)) := by
  cases declaration with
  | struct name visibility list =>
      apply Fails.bind
      · cases list with
        | unit => exact fails_pure _
        | named parts | ordered parts =>
            apply Fails.bind
            · exact fails_gather (List.nil_subset _) (List.Subset.refl _)
            · exact fun _ _ _ _ => fails_pure _
      · exact fun _ _ _ _ => fails_pure _
  | enum name visibility parts =>
      apply Fails.bind
      · exact fails_gather (List.nil_subset _) (List.Subset.refl _)
      · exact fun _ _ _ _ => fails_pure _
  | function head =>
      exact (fails_signature _ _ head).bind fun _ _ _ _ => fails_pure _
  | trait name visibility isUnsafe body =>
      apply Fails.bind
      · exact fails_assocItems (List.nil_subset _) (List.Subset.refl _)
      · exact fun _ _ _ _ => fails_pure _
  | _ => exact fails_pure _

theorem fails_innerDocs (declarations : List Declaration) :
    (innerDocs declarations).Fails
      (IsOfLiteral (declarations.flatMap literalsOf)) := by
  unfold innerDocs
  split
  · exact fails_pure _
  · rename_i error unread
    rcases Docs.Remarks.literal_of_ofNotes unread with
      ⟨literal, member, none⟩
    refine fails_throw ⟨literal, ?_, error, none, rfl⟩
    rcases List.mem_filterMap.1 member with ⟨note, among, inside⟩
    rcases List.mem_filterMap.1 among with ⟨declaration, listed, isNote⟩
    rw [List.mem_flatMap]
    refine ⟨declaration, listed, ?_⟩
    cases declaration with
    | note content =>
        cases isNote
        exact List.mem_filterMap.2 ⟨_, List.mem_singleton_self _, inside⟩
    | _ => cases isNote

/-! ## Modules in files -/

section

variable [Depths]

/-- Why the file of a module cannot be loaded. -/
inductive IsUnloadable (files : FileTree) (place : Place) (name : String)
    (override? : Option WideText) : TreeError → Prop where
  | tooLong {file directory path : DiskPath}
      (filed : place.file? = some file)
      (placed : place.directory? = some directory)
      (candidate : path ∈ moduleFiles directory file name override?)
      (long : files.find path = .error .nameTooLong) :
    IsUnloadable files place name override?
      (.disk { cause := .nameTooLong, path })
  | unreadable {file directory path : DiskPath} {cause : ReadCause}
      (filed : place.file? = some file)
      (placed : place.directory? = some directory)
      (first : firstFile? files
        (moduleFiles directory file name override?) = .ok (some path))
      (unread : readText files path = .error cause) :
    IsUnloadable files place name override? (.unreadable path cause)
  | unparsable {file directory path : DiskPath} {text : String}
      {fault : Source.Fault}
      (filed : place.file? = some file)
      (placed : place.directory? = some directory)
      (first : firstFile? files
        (moduleFiles directory file name override?) = .ok (some path))
      (read : readText files path = .ok text)
      (unparsed : Source.parse text = .error fault) :
    IsUnloadable files place name override? (.ofFault path.toText fault)

omit [Depths] in
/-- A file is looked for in vain only where a name is too long. -/
theorem long_of_firstFile?
    {files : FileTree}
    {paths : List DiskPath}
    {fault : DiskFault}
    (failed : firstFile? files paths = .error fault) :
    ∃ path ∈ paths,
      files.find path = .error .nameTooLong ∧
        fault = { cause := .nameTooLong, path } := by
  induction paths with
  | nil => cases failed
  | cons path paths inductionStep =>
      rw [firstFile?] at failed
      rcases bind_eq_error_iff.1 failed with here | ⟨isFile, _, later⟩
      · exact ⟨path, List.mem_cons_self,
          FileTree.isFile_eq_error_iff.1 here⟩
      · split at later
        · cases later
        · rcases inductionStep later with ⟨other, member, long, same⟩
          exact ⟨other, List.mem_cons_of_mem _ member, long, same⟩

theorem fails_loadModule
    {path : ItemPath}
    {name : String}
    {override? : Option WideText} :
    (loadModule basis place path name override?).Fails
      (IsUnloadable basis.files place name override?) := by
  unfold loadModule
  split
  · rename_i file directory filed placed
    dsimp only
    apply Fails.bind
    · apply fails_ofExcept
      intro error failed
      rcases mapError_eq_error_iff.1 failed with ⟨fault, unknown, rfl⟩
      rcases long_of_firstFile? unknown with ⟨path, candidate, long, rfl⟩
      exact .tooLong filed placed candidate long
    intro found? found later looked
    rw [on_ofExcept, Prod.mk.injEq, mapError_eq_ok_iff] at looked
    split
    · exact (fails_report _ _ _).bind fun _ _ _ _ => fails_pure _
    · rename_i known
      refine (fails_report _ _ _).bind ?_
      intro _ found later _
      apply Fails.bind
      · apply fails_ofExcept
        intro error failed
        rcases mapError_eq_error_iff.1 failed with ⟨cause, unread, rfl⟩
        exact .unreadable filed placed looked.1 unread
      intro text found later read
      rw [on_ofExcept, Prod.mk.injEq, mapError_eq_ok_iff] at read
      apply Fails.bind
      · apply fails_ofExcept
        intro error failed
        rcases mapError_eq_error_iff.1 failed with ⟨fault, unparsed, rfl⟩
        exact .unparsable filed placed looked.1 read.1 unparsed
      · exact fun _ _ _ _ => fails_pure _
  · exact (fails_report _ _ _).bind fun _ _ _ _ => fails_pure _

/-! ## Modules -/

/-- Why the declarations of a module, in which modules are nested at most a
number of times, cannot be read. -/
inductive IsRefused (files : FileTree) (skipsHidden : Bool) :
    Nat → Place → List Declaration → TreeError → Prop where
  | tooDeep (place : Place) (declarations : List Declaration) :
    IsRefused files skipsHidden 0 place declarations .tooDeep
  | literal {depth : Nat} {place : Place} {declarations : List Declaration}
      {written : List Char}
      (member : written ∈ declarations.flatMap literalsOf)
      (vast : Docs.HoldsVastEscape written) :
    IsRefused files skipsHidden (depth + 1) place declarations
      (.literal .codePointTooLarge)
  | importing {depth : Nat} {place : Place}
      {declarations : List Declaration} {text : String}
      {visibility : Visibility} {tree : Source.UseTree}
      (member : .importing text visibility tree ∈ declarations)
      (long : Depths.imports < tree.depth) :
    IsRefused files skipsHidden (depth + 1) place declarations .tooDeep
  | file {depth : Nat} {place : Place} {declarations : List Declaration}
      {notes : List Note} {name : String} {visibility : Visibility}
      {error : TreeError}
      (member : (notes, .module name visibility none) ∈
        declarationsWithNotes [] declarations)
      (shown : isShown skipsHidden notes = true)
      (unloadable : IsUnloadable files place name (said notes).file?
        error) :
    IsRefused files skipsHidden (depth + 1) place declarations error
  | inside {depth : Nat} {place inner : Place}
      {declarations within : List Declaration} {notes : List Note}
      {name : String} {visibility : Visibility}
      {body : Option (List Declaration)} {error : TreeError}
      (member : (notes, .module name visibility body) ∈
        declarationsWithNotes [] declarations)
      (shown : isShown skipsHidden notes = true)
      (opens : opened? files place name (said notes).file? body =
        some (inner, within))
      (refused : IsRefused files skipsHidden depth inner within error) :
    IsRefused files skipsHidden (depth + 1) place declarations error

section

variable
    {visitModule : ModuleVisit}
    {notes : List Note}
    {declaration : Declaration}
    {uses : UseTable}
    {Cause : TreeError → Prop}

omit [Depths] in
/-- A visit of a declaration that has a name fails at a literal in it or
inside the module that it is. -/
theorem fails_visitNamed
    {name : String}
    (own : ∀ {α : Type} {job : Visit α},
      job.Fails (IsOfLiteral (literalsOf declaration)) → job.Fails Cause)
    (modules : ∀ name visibility body,
      declaration = .module name visibility body →
        isShown basis.skipsHidden notes = true →
          (visitModule (said notes) name visibility body).Fails Cause) :
    (visitNamed basis place visitModule (said notes) name
      declaration).Fails Cause := by
  refine (fails_isSkipped _ _).bind ?_
  intro skipped found later asked
  cases skipped with
  | true => exact fails_pure _
  | false =>
      rw [if_neg Bool.false_ne_true]
      cases declaration with
      | module name visibility body =>
          obtain ⟨shown, _⟩ := of_on_isSkipped_false asked
          exact (modules name visibility body rfl shown).bind
            fun _ _ _ _ => fails_pure _
      | _ => exact own fails_plainItems

/-- A visit of a declaration fails at a literal, at the import or inside the
module that it is. -/
theorem fails_visitPart
    (literal : ∀ error, IsOfLiteral literals error → Cause error)
    (before : literalsIn notes ⊆ literals)
    (among : literalsOf declaration ⊆ literals)
    (importing : ∀ text visibility tree,
      declaration = .importing text visibility tree →
        Depths.imports < tree.depth → Cause .tooDeep)
    (modules : ∀ name visibility body,
      declaration = .module name visibility body →
        isShown basis.skipsHidden notes = true →
          (visitModule (said notes) name visibility body).Fails Cause) :
    (visitPart basis place visitModule uses notes declaration).Fails
      Cause := by
  have own : ∀ {α : Type} {job : Visit α},
      job.Fails (IsOfLiteral (literalsOf declaration)) → job.Fails Cause :=
    fun fails => (fails.of_subset among).mono literal
  refine (((fails_remarks notes).of_subset before).mono literal).bind ?_
  intro remarks found later read
  obtain ⟨rfl, rfl⟩ := eq_of_on_remarks read
  cases declaration with
  | importing text visibility tree =>
      dsimp only
      split
      · rename_i long
        exact fails_throw (importing text visibility tree rfl long)
      · exact fails_pure _
  | impl head body =>
      refine (fails_isSkipped _ _).bind ?_
      intro skipped found later _
      split
      · exact fails_pure _
      · exact (own fails_recordImpl).bind fun _ _ _ _ => fails_pure _
  | foreign mark body =>
      apply Fails.bind
      · exact own ((fails_abiOf mark).of_subset
          (List.subset_append_left _ _))
      · intro abi found later _
        apply Fails.bind
        · exact own (fails_foreignItems (List.nil_subset _)
            (List.subset_append_right _ _))
        · exact fun _ _ _ _ => fails_pure _
  | note _ | macroCall _ _ | statement => exact fails_pure _
  | _ =>
      exact (fails_visitNamed own modules).bind fun _ _ _ _ => fails_pure _

/-- A visit of declarations fails in one of them. -/
theorem fails_visitParts
    {noted : List (List Note × Declaration)}
    (each : ∀ part ∈ noted, ∀ uses,
      (visitPart basis place visitModule uses part.1 part.2).Fails Cause) :
    (visitParts basis place visitModule uses noted).Fails Cause := by
  induction noted generalizing uses with
  | nil => exact fails_pure _
  | cons part rest inductionStep =>
      rw [List.forall_mem_cons] at each
      refine (each.1 uses).bind ?_
      intro made found later _
      exact (inductionStep each.2).bind fun _ _ _ _ => fails_pure _

end

theorem IsOfLiteral.isRefused
    {files : FileTree}
    {skipsHidden : Bool}
    {depth : Nat}
    {declarations : List Declaration}
    {error : TreeError}
    (isOf : IsOfLiteral (declarations.flatMap literalsOf) error) :
    IsRefused files skipsHidden (depth + 1) place declarations error := by
  rcases isOf with ⟨written, member, cause, none, rfl⟩
  cases cause
  exact .literal member (Docs.holdsVastEscape_of_literalValue none)

/-- A visit of a module fails with an error for which the module is
refused. -/
theorem fails_visitContainer
    {depth : Nat}
    {declarations : List Declaration} :
    (visitContainer basis depth place declarations).Fails
      (IsRefused basis.files basis.skipsHidden depth place declarations) := by
  induction depth generalizing place declarations with
  | zero => exact fails_throw (.tooDeep place declarations)
  | succ depth inductionStep =>
      rw [visitContainer_succ]
      refine Fails.bind
        ((fails_innerDocs declarations).mono fun _ => IsOfLiteral.isRefused) ?_
      intro docs found later _
      refine Fails.bind (fails_visitParts ?_) fun _ _ _ _ => fails_pure _
      rintro ⟨notes, declaration⟩ member uses
      have listed : declaration ∈ declarations :=
        mem_of_mem_declarationsWithNotes member
      refine fails_visitPart (fun _ => IsOfLiteral.isRefused)
        (literalsIn_subset_of_mem member (List.nil_subset _)
          (List.Subset.refl _))
        (fun written among => List.mem_flatMap.2 ⟨_, listed, among⟩) ?_ ?_
      · rintro text visibility tree rfl long
        exact .importing listed long
      rintro name visibility body rfl shown
      cases body with
      | some body =>
          refine Fails.bind ?_ fun _ _ _ _ => fails_pure _
          exact inductionStep.mono fun _ refused =>
            .inside member shown rfl refused
      | none =>
          refine Fails.bind
            (fails_loadModule.mono fun _ unloadable =>
              .file member shown unloadable) ?_
          intro loaded found later loads
          rcases of_on_loadModule loads with ⟨rfl, _⟩
          cases known : loaded? basis.files place name
              (said notes).file? with
          | none => exact fails_pure _
          | some file =>
              refine Fails.bind ?_ fun _ _ _ _ => fails_pure _
              refine inductionStep.mono fun error refused => ?_
              refine .inside member shown ?_ refused
              rw [opened?, known]
              rfl

/-! ## Whole crates -/

variable
    {files : FileTree}
    {crate : CrateId}
    {skipsHidden : Bool}
    {file? : Option DiskPath}
    {error : TreeError}

theorem fails_visitRoot (declarations : List Declaration) :
    (visitRoot ⟨files, (rootPlace crate file?).path, skipsHidden⟩ file?
      declarations).Fails
      (IsRefused files skipsHidden Depths.modules (rootPlace crate file?)
        declarations) := by
  refine Fails.bind fails_visitContainer ?_
  intro _ found later _
  exact fails_get.bind fun _ _ _ _ => fails_pure _

theorem isRefused_of_treeOf
    {declarations : List Declaration}
    (refused : treeOf files crate skipsHidden file? declarations =
      .error error) :
    IsRefused files skipsHidden Depths.modules (rootPlace crate file?)
      declarations error :=
  fails_visitRoot declarations {} _ _ (Prod.ext refused rfl)

/-- A crate cannot be read if its root file cannot be parsed or is refused. -/
theorem unparsed_or_isRefused
    {text : String}
    (failed : (document files crate skipsHidden text file?).1 =
      .error error) :
    (∃ fault,
      Source.parse text = .error fault ∧
        error = .ofFault ((file?.map DiskPath.toText).getD "") fault) ∨
      ∃ declarations,
        Source.parse text = .ok declarations ∧
          IsRefused files skipsHidden Depths.modules (rootPlace crate file?)
            declarations error := by
  cases parsed : Source.parse text with
  | error fault =>
      refine Or.inl ⟨fault, rfl, ?_⟩
      rw [document_of_unparsed parsed] at failed
      cases failed
      rfl
  | ok declarations =>
      refine Or.inr ⟨declarations, rfl, ?_⟩
      rw [document_of_parse parsed] at failed
      cases read : treeOf files crate skipsHidden file? declarations with
      | ok tree =>
          rw [read] at failed
          cases failed
      | error other =>
          rw [read] at failed
          cases failed
          exact isRefused_of_treeOf read

end

end CrateShelf.Tree
