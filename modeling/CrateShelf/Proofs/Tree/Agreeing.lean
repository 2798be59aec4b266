import CrateShelf.Proofs.Tree.Bare
import CrateShelf.Proofs.Tree.Visiting

/-!
# Two visits that agree

Two crates are read side by side.  What was found in them so far may differ in
where it stands on the disk and in what was said of it; two jobs agree if they
then fail with the same error, or yield related results and find alike.

Main statements: jobs that agree may be put together, and every job that reads
no files agrees with itself in crates with different files.
-/

namespace CrateShelf.Tree

open Docs (Note Remarks)
open Source (Declaration Noted)

namespace Visit

variable
    {α β γ δ : Type}
    {R : α → β → Prop}
    {S : γ → δ → Prop}

/-- What was found in two crates is the same, but for its places on the disk
and for what was said. -/
structure FindsAlike (found other : Findings) : Prop where
  impls_eq : found.impls.map Impl.bare = other.impls.map Impl.bare
  hidden_eq : found.hidden = other.hidden

/-- Two runs end with the same error or with related results. -/
inductive EndsAlike (R : α → β → Prop) :
    Except TreeError α × Findings → Except TreeError β × Findings → Prop where
  | error (error : TreeError) (found other : Findings) :
    EndsAlike R (.error error, found) (.error error, other)
  | ok {value : α} {like : β} {found other : Findings}
      (related : R value like) (alike : FindsAlike found other) :
    EndsAlike R (.ok value, found) (.ok like, other)

/-- Two jobs end alike, however they start. -/
def Agree (R : α → β → Prop) (job : Visit α) (other : Visit β) : Prop :=
  ∀ found start, FindsAlike found start →
    EndsAlike R (on job found) (on other start)

theorem agree_pure
    {value : α}
    {like : β}
    (related : R value like) :
    Agree R (pure value) (pure like) :=
  fun _ _ alike => .ok related alike

theorem agree_throw (error : TreeError) :
    Agree R (throw error) (throw error) :=
  fun _ _ _ => .error error _ _

theorem agree_modify
    {change other : Findings → Findings}
    (keeps : ∀ found start, FindsAlike found start →
      FindsAlike (change found) (other start)) :
    Agree Eq (modify change : Visit Unit) (modify other) :=
  fun _ _ alike => .ok rfl (keeps _ _ alike)

theorem agree_get : Agree FindsAlike get get :=
  fun _ _ alike => .ok alike alike

/-- It does not matter what is said. -/
theorem agree_report
    (level otherLevel : LogLevel)
    (source text otherSource otherText : String) :
    Agree Eq (report level source text)
      (report otherLevel otherSource otherText) :=
  agree_modify fun _ _ alike => ⟨alike.impls_eq, alike.hidden_eq⟩

theorem agree_ofExcept
    {result : Except TreeError α}
    {other : Except TreeError β}
    (ends : (∃ error, result = .error error ∧ other = .error error) ∨
      ∃ value like, result = .ok value ∧ other = .ok like ∧ R value like) :
    Agree R (MonadExcept.ofExcept result) (MonadExcept.ofExcept other) := by
  intro found start alike
  rw [on_ofExcept, on_ofExcept]
  rcases ends with ⟨error, rfl, rfl⟩ | ⟨value, like, rfl, rfl, related⟩
  · exact .error error _ _
  · exact .ok related alike

/-- A result that is the same in both crates is known after it. -/
theorem agree_ofExcept_self (result : Except TreeError α) :
    Agree (fun value like => value = like ∧ result = .ok value)
      (MonadExcept.ofExcept result) (MonadExcept.ofExcept result) := by
  refine agree_ofExcept ?_
  cases result with
  | error error => exact Or.inl ⟨error, rfl, rfl⟩
  | ok value => exact Or.inr ⟨value, value, rfl, rfl, rfl, rfl⟩

/-- Jobs that go on alike after jobs that agree. -/
theorem Agree.bind
    {job : Visit α}
    {other : Visit β}
    {next : α → Visit γ}
    {otherNext : β → Visit δ}
    (agree : Agree R job other)
    (then_ : ∀ value like, R value like →
      Agree S (next value) (otherNext like)) :
    Agree S (job >>= next) (other >>= otherNext) := by
  intro found start alike
  have ends := agree found start alike
  rw [on_bind, on_bind]
  generalize on job found = first at ends
  generalize on other start = second at ends
  cases ends with
  | error error later otherLater => exact .error error _ _
  | ok related alsoAlike => exact then_ _ _ related _ _ alsoAlike

/-- Jobs that go on alike after the same result. -/
theorem Agree.bind_eq
    {job other : Visit α}
    {next : α → Visit γ}
    {otherNext : α → Visit δ}
    (agree : Agree Eq job other)
    (then_ : ∀ value, Agree S (next value) (otherNext value)) :
    Agree S (job >>= next) (other >>= otherNext) :=
  agree.bind fun value _ same => same ▸ then_ value

/-- Jobs that choose alike. -/
theorem agree_ite
    {choice : Prop}
    [Decidable choice]
    {yes no : Visit α}
    {otherYes otherNo : Visit β}
    (ifYes : Agree R yes otherYes)
    (ifNo : Agree R no otherNo) :
    Agree R (if choice then yes else no)
      (if choice then otherYes else otherNo) := by
  split
  · exact ifYes
  · exact ifNo

end Visit

open Visit

/-! ## Jobs that read no files -/

/-- The basis of another crate, which has other files. -/
def Basis.over (basis : Basis) (files : FileTree) : Basis :=
  { basis with files }

theorem Basis.files_over (basis : Basis) (files : FileTree) :
    (basis.over files).files = files := rfl

variable
    {basis : Basis}
    {moved : FileTree}

theorem agree_remarks (notes : List Note) :
    Agree Eq (remarks notes) (remarks notes) := by
  unfold remarks
  split
  · exact agree_pure rfl
  · exact agree_throw _

theorem agree_isSkipped
    (said : Remarks)
    (path? : Option ItemPath) :
    Agree Eq (isSkipped basis said path?)
      (isSkipped (basis.over moved) said path?) := by
  have told : ∀ text : String, Agree Eq
      (report .debug "visitor" text >>= fun _ => pure true)
      (report .debug "visitor" text >>= fun _ => pure true) := fun text =>
    (agree_report _ _ _ _ _ _).bind_eq fun _ => agree_pure rfl
  change Agree Eq (isSkipped basis said path?) (isSkipped basis said path?)
  unfold isSkipped
  refine agree_ite ?_ (agree_pure rfl)
  cases path? with
  | none => exact told _
  | some path =>
      refine Agree.bind_eq (agree_modify ?_) fun _ => told _
      intro found start alike
      refine ⟨alike.impls_eq, ?_⟩
      dsimp only
      rw [alike.hidden_eq]

theorem agree_abiOf (mark : Source.ExternMark) :
    Agree Eq (abiOf mark) (abiOf mark) := by
  unfold abiOf
  split
  · exact agree_pure rfl
  · split
    · exact agree_pure rfl
    · exact agree_throw _

theorem agree_lastAbi (usual : Abi) (marks : List Source.ExternMark) :
    Agree Eq (lastAbi usual marks) (lastAbi usual marks) := by
  unfold lastAbi
  induction marks generalizing usual with
  | nil => exact agree_pure rfl
  | cons mark marks inductionStep =>
      rw [List.foldlM_cons]
      exact (agree_abiOf mark).bind_eq fun abi => inductionStep abi

theorem agree_signature
    (kind : FnKind)
    (usual : Abi)
    (head : Source.FunctionHead) :
    Agree Eq (signature kind usual head) (signature kind usual head) :=
  (agree_lastAbi usual head.externMarks).bind_eq fun _ => agree_pure rfl

theorem agree_gather
    (build : α → Remarks → β)
    (pending : List Note)
    (parts : List (Noted α)) :
    Agree Eq (gather basis build pending parts)
      (gather (basis.over moved) build pending parts) := by
  induction parts generalizing pending with
  | nil => exact agree_pure rfl
  | cons part parts inductionStep =>
      cases part with
      | note note => exact inductionStep _
      | part value =>
          rw [gather, gather]
          refine (agree_remarks pending).bind_eq fun said => ?_
          refine (inductionStep []).bind_eq fun others => ?_
          exact agree_ite (agree_pure rfl) (agree_pure rfl)

theorem agree_assocItem?
    (kind : FnKind)
    (docs : List WideText)
    (declaration : Declaration) :
    Agree Eq (assocItem? kind docs declaration)
      (assocItem? kind docs declaration) := by
  cases declaration with
  | function head =>
      exact (agree_signature kind .rust head).bind_eq fun _ => agree_pure rfl
  | _ => exact agree_pure rfl

theorem agree_assocItems
    (kind : FnKind)
    (pending : List Note)
    (declarations : List Declaration) :
    Agree Eq (assocItems basis kind pending declarations)
      (assocItems (basis.over moved) kind pending declarations) := by
  fun_induction assocItems basis kind pending declarations with
  | case1 pending => exact agree_pure rfl
  | case2 pending text rest inductionStep =>
      exact (agree_remarks pending).bind_eq fun _ => inductionStep
  | case3 pending note rest notInner inductionStep =>
      rw [assocItems]
      · exact inductionStep
      · exact notInner
  | case4 pending declaration rest notInner notNote inductionStep =>
      rw [assocItems]
      · refine (agree_remarks pending).bind_eq fun said => ?_
        refine agree_ite inductionStep ?_
        refine (agree_assocItem? _ _ _).bind_eq fun item? => ?_
        exact inductionStep.bind_eq fun _ => agree_pure rfl
      · exact notInner
      · exact notNote

theorem agree_foreignItems
    {place other : Place}
    (same : place.path = other.path)
    (abi : Abi)
    (pending : List Note)
    (declarations : List Declaration) :
    Agree Eq (foreignItems basis place abi pending declarations)
      (foreignItems (basis.over moved) other abi pending declarations) := by
  fun_induction foreignItems basis place abi pending declarations with
  | case1 pending => exact agree_pure rfl
  | case2 pending text rest inductionStep => exact inductionStep
  | case3 pending note rest notInner inductionStep =>
      rw [foreignItems]
      · exact inductionStep
      · exact notInner
  | case4 pending head rest inductionStep =>
      rw [foreignItems]
      refine (agree_remarks pending).bind_eq fun said => ?_
      dsimp only
      rw [← same]
      refine (agree_isSkipped said _).bind_eq fun skipped => ?_
      refine agree_ite inductionStep ?_
      refine (agree_signature _ _ _).bind_eq fun signature => ?_
      exact inductionStep.bind_eq fun _ => agree_pure rfl
  | case5 pending declaration rest notInner notNote notFunction
      inductionStep =>
      rw [foreignItems]
      · exact inductionStep
      · exact notInner
      · exact notNote
      · exact notFunction

theorem agree_fields (list : Source.FieldList) :
    Agree Eq (fields basis list) (fields (basis.over moved) list) := by
  cases list with
  | unit => exact agree_pure rfl
  | named parts | ordered parts =>
      exact (agree_gather _ _ _).bind_eq fun _ => agree_pure rfl

theorem agree_plainItems
    (path : ItemPath)
    (docs : List WideText)
    (declaration : Declaration) :
    Agree Eq (plainItems basis path docs declaration)
      (plainItems (basis.over moved) path docs declaration) := by
  cases declaration with
  | struct name visibility list =>
      exact (agree_fields list).bind_eq fun _ => agree_pure rfl
  | enum name visibility parts =>
      exact (agree_gather _ _ _).bind_eq fun _ => agree_pure rfl
  | function head =>
      exact (agree_signature _ _ head).bind_eq fun _ => agree_pure rfl
  | trait name visibility isUnsafe body =>
      exact (agree_assocItems _ _ _).bind_eq fun _ => agree_pure rfl
  | _ => exact agree_pure rfl

/-- A block is numbered alike, wherever it is read from and starts. -/
theorem agree_recordImpl
    {place other : Place}
    (same : place.path = other.path)
    (docs : List WideText)
    (head : Source.ImplHead)
    (start : Nat)
    (body : Option (List Declaration)) :
    Agree Eq (recordImpl basis place docs head body)
      (recordImpl (basis.over moved) other docs { head with start } body) := by
  unfold recordImpl
  refine (agree_assocItems _ _ _).bind_eq fun items => ?_
  refine agree_get.bind fun found later alike => ?_
  have sameOrder : found.impls.length = later.impls.length := by
    simpa using congrArg List.length alike.impls_eq
  dsimp only
  rw [sameOrder]
  refine Agree.bind_eq (agree_modify fun found later alike => ?_) fun _ =>
    agree_pure rfl
  refine ⟨?_, alike.hidden_eq⟩
  dsimp only
  rw [List.map_append, List.map_append, alike.impls_eq, List.map_singleton,
    List.map_singleton, Impl.bare, Impl.bare, same]

theorem agree_innerDocs (declarations : List Declaration) :
    Agree Eq (innerDocs declarations) (innerDocs declarations) := by
  unfold innerDocs
  split
  · exact agree_pure rfl
  · exact agree_throw _

end CrateShelf.Tree
