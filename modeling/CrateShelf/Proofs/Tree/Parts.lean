import CrateShelf.Proofs.Outcome
import CrateShelf.Tree.Visit

/-!
# Parts of declarations

What is read from the parts of a declaration, as functions of the
declaration: notes belong to the part that follows them, and hidden parts are
left out if hidden items are skipped.

Main statements: each job that reads parts yields what its function says,
whenever it yields anything, and finds nothing else.
-/

namespace CrateShelf.Tree

open Docs (Note Remarks)
open Source (Declaration Noted)

/-! ## Jobs -/

namespace Visit

variable {α β : Type}

/-- The outcome of a job, and what has been found after it. -/
def on (job : Visit α) (found : Findings) : Except TreeError α × Findings :=
  StateT.run (ExceptT.run job) found

@[simp]
theorem on_pure (value : α) (found : Findings) :
    on (pure value) found = (.ok value, found) := rfl

@[simp]
theorem on_throw (error : TreeError) (found : Findings) :
    on (throw error : Visit α) found = (.error error, found) := rfl

@[simp]
theorem on_get (found : Findings) :
    on get found = (.ok found, found) := rfl

@[simp]
theorem on_modify (change : Findings → Findings) (found : Findings) :
    on (modify change : Visit Unit) found = (.ok (), change found) := rfl

@[simp]
theorem on_report (level : LogLevel) (source text : String)
    (found : Findings) :
    on (report level source text) found =
      (.ok (), { found with log := found.log ++ [⟨level, source, text⟩] }) :=
  rfl

@[simp]
theorem on_ofExcept (result : Except TreeError α) (found : Findings) :
    on (MonadExcept.ofExcept result) found = (result, found) := by
  cases result with
  | ok value => rfl
  | error error => rfl

/-- What is done after a job is done with what it found, unless it failed. -/
theorem on_bind (job : Visit α) (next : α → Visit β) (found : Findings) :
    on (job >>= next) found =
      match on job found with
      | (.ok value, later) => on (next value) later
      | (.error error, later) => (.error error, later) := by
  change StateT.run (ExceptT.run (job >>= next)) found = _
  rw [ExceptT.run_bind, StateT.run_bind]
  unfold on
  cases StateT.run (ExceptT.run job) found with
  | mk result later =>
      cases result with
      | ok value => rfl
      | error error => rfl

/-- A job with a second part yields something when both parts do. -/
@[simp]
theorem on_bind_eq_ok_iff
    {job : Visit α}
    {next : α → Visit β}
    {found later : Findings}
    {value : β} :
    on (job >>= next) found = (.ok value, later) ↔
      ∃ first middle, on job found = (.ok first, middle) ∧
        on (next first) middle = (.ok value, later) := by
  rw [on_bind]
  cases on job found with
  | mk result middle =>
      cases result with
      | ok first =>
          constructor
          · intro next
            exact ⟨first, middle, rfl, next⟩
          · rintro ⟨_, _, same, next⟩
            cases same
            exact next
      | error error => simp

end Visit

open Visit

/-! ## Notes -/

/-- What notes say, as far as they can be read. -/
def said (notes : List Note) : Remarks :=
  match Remarks.ofNotes .outer notes with
  | .ok remarks => remarks
  | .error _ => {}

theorem eq_of_on_remarks
    {notes : List Note}
    {found later : Findings}
    {value : Remarks}
    (yields : on (remarks notes) found = (.ok value, later)) :
    value = said notes ∧ later = found := by
  unfold remarks at yields
  unfold said
  cases read : Remarks.ofNotes .outer notes with
  | ok remarks => simpa [read, eq_comm] using yields
  | error error => simp [read] at yields

/-- Whether something with notes is documented. -/
def isShown (skipsHidden : Bool) (notes : List Note) : Bool :=
  !(skipsHidden && (said notes).hidden)

/-- Parts with the notes before each. -/
def partsWithNotes {α : Type} (pending : List Note) :
    List (Noted α) → List (List Note × α)
  | [] => []
  | .note note :: rest => partsWithNotes (pending ++ [note]) rest
  | .part value :: rest => (pending, value) :: partsWithNotes [] rest

/-- Items of a body with the notes before each; what an inner attribute
follows has no more notes. -/
def bodyWithNotes (pending : List Note) :
    List Declaration → List (List Note × Declaration)
  | [] => []
  | .note (.attribute .inner _) :: rest => bodyWithNotes [] rest
  | .note note :: rest => bodyWithNotes (pending ++ [note]) rest
  | declaration :: rest => (pending, declaration) :: bodyWithNotes [] rest

/-- Declarations in a module with the notes before each. -/
def declarationsWithNotes (pending : List Note) :
    List Declaration → List (List Note × Declaration)
  | [] => []
  | .note (.attribute .inner _) :: rest => declarationsWithNotes pending rest
  | .note note :: rest => declarationsWithNotes (pending ++ [note]) rest
  | declaration :: rest =>
    (pending, declaration) :: declarationsWithNotes [] rest

theorem mem_of_mem_declarationsWithNotes
    {pending : List Note}
    {declarations : List Declaration}
    {part : List Note × Declaration}
    (member : part ∈ declarationsWithNotes pending declarations) :
    part.2 ∈ declarations := by
  fun_induction declarationsWithNotes pending declarations with
  | case1 pending => cases member
  | case2 pending text rest inductionStep =>
      exact List.mem_cons_of_mem _ (inductionStep member)
  | case3 pending note rest _ inductionStep =>
      exact List.mem_cons_of_mem _ (inductionStep member)
  | case4 pending declaration rest _ _ inductionStep =>
      rcases List.mem_cons.1 member with rfl | later
      · exact List.mem_cons_self
      · exact List.mem_cons_of_mem _ (inductionStep later)

/-- A module is a part of what declares it. -/
theorem sizeOf_lt_of_mem_declarationsWithNotes
    {pending notes : List Note}
    {declarations body : List Declaration}
    {name : String}
    {visibility : Visibility}
    (member : (notes, .module name visibility (some body)) ∈
      declarationsWithNotes pending declarations) :
    sizeOf body < sizeOf declarations := by
  have less := List.sizeOf_lt_of_mem (mem_of_mem_declarationsWithNotes member)
  simp only [Declaration.module.sizeOf_spec, Option.some.sizeOf_spec] at less
  omega

/-- The documented ones among things with notes, with what is said about
them. -/
def shownAmong {α : Type} (skipsHidden : Bool)
    (noted : List (List Note × α)) : List (Remarks × α) :=
  (noted.filter (isShown skipsHidden ·.1)).map fun part =>
    (said part.1, part.2)

theorem shownAmong_cons
    {α : Type}
    (skipsHidden : Bool)
    (notes : List Note)
    (value : α)
    (rest : List (List Note × α)) :
    shownAmong skipsHidden ((notes, value) :: rest) =
      if isShown skipsHidden notes then
        (said notes, value) :: shownAmong skipsHidden rest
      else shownAmong skipsHidden rest := by
  unfold shownAmong
  rw [List.filter_cons]
  split
  · rfl
  · rfl

/-- What is documented with hidden things left out is documented anyway. -/
theorem shownAmong_sublist {α : Type} (noted : List (List Note × α)) :
    (shownAmong true noted).Sublist (shownAmong false noted) := by
  apply List.Sublist.map
  have all : noted.filter (isShown false ·.1) = noted := by
    simp [isShown]
  rw [all]
  exact List.filter_sublist

variable {basis : Basis} {found later : Findings}

theorem eq_of_on_gather
    {α β : Type}
    {build : α → Remarks → β}
    {pending : List Note}
    {parts : List (Noted α)}
    {values : List β}
    (yields : on (gather basis build pending parts) found =
      (.ok values, later)) :
    values = (shownAmong basis.skipsHidden (partsWithNotes pending parts)).map
        (fun part => build part.2 part.1) ∧
      later = found := by
  induction parts generalizing pending values later with
  | nil =>
      simp only [gather, on_pure, Prod.mk.injEq, Except.ok.injEq] at yields
      simp [partsWithNotes, shownAmong, ← yields.1, yields.2]
  | cons part parts inductionStep =>
      cases part with
      | note note => exact inductionStep yields
      | part value =>
          simp only [gather, on_bind_eq_ok_iff] at yields
          obtain ⟨_, _, read, others, _, rest, built⟩ := yields
          obtain ⟨rfl, rfl⟩ := eq_of_on_remarks read
          obtain ⟨rfl, rfl⟩ := inductionStep rest
          rw [partsWithNotes, shownAmong_cons, isShown]
          cases hides : basis.skipsHidden && (said pending).hidden with
          | true =>
              simp only [hides, if_true, on_pure, Prod.mk.injEq,
                Except.ok.injEq] at built
              simp [← built.1, built.2]
          | false =>
              simp only [hides, Bool.false_eq_true, if_false, on_pure,
                Prod.mk.injEq, Except.ok.injEq] at built
              simp [← built.1, built.2]

/-! ## Fields and variants -/

/-- Named or ordered fields with their documentation. -/
def fieldParts (skipsHidden : Bool)
    (parts : List (Noted Source.FieldHead)) : List Field :=
  (shownAmong skipsHidden (partsWithNotes [] parts)).map fun part =>
    ⟨part.2.name, part.2.visibility, part.2.typeText, part.1.docs⟩

/-- The documented fields of a struct and whether they have no names. -/
def fieldsOf (skipsHidden : Bool) : Source.FieldList → List Field × Bool
  | .unit => ([], false)
  | .named parts => (fieldParts skipsHidden parts, false)
  | .ordered parts => (fieldParts skipsHidden parts, true)

theorem eq_of_on_fields
    {list : Source.FieldList}
    {value : List Field × Bool}
    (yields : on (fields basis list) found = (.ok value, later)) :
    value = fieldsOf basis.skipsHidden list ∧ later = found := by
  cases list with
  | unit =>
      cases yields
      exact ⟨rfl, rfl⟩
  | named parts | ordered parts =>
      obtain ⟨_, _, gathered, built⟩ := on_bind_eq_ok_iff.1 yields
      obtain ⟨rfl, rfl⟩ := eq_of_on_gather gathered
      cases built
      exact ⟨rfl, rfl⟩

/-- The documented variants of an enum. -/
def variantsOf (skipsHidden : Bool)
    (parts : List (Noted Source.VariantHead)) : List Variant :=
  (shownAmong skipsHidden (partsWithNotes [] parts)).map fun part =>
    ⟨part.2.name, variantText part.2, part.1.docs⟩

theorem eq_of_on_variants
    {parts : List (Noted Source.VariantHead)}
    {values : List Variant}
    (yields : on (variants basis parts) found = (.ok values, later)) :
    values = variantsOf basis.skipsHidden parts ∧ later = found :=
  eq_of_on_gather yields

/-! ## Items of traits and blocks -/

/-- The calling convention that a mark names, if it can be read. -/
def markedAbi (mark : Source.ExternMark) : Abi :=
  match mark.literal with
  | none => .c
  | some literal =>
    match Docs.literalValue literal with
    | .ok name => Abi.ofDeclared (WideText.ofPoints name).whole?
    | .error _ => .c

theorem eq_of_on_abiOf
    {mark : Source.ExternMark}
    {abi : Abi}
    (yields : on (abiOf mark) found = (.ok abi, later)) :
    abi = markedAbi mark ∧ later = found := by
  unfold abiOf at yields
  unfold markedAbi
  cases named : mark.literal with
  | none => simpa [named, eq_comm] using yields
  | some literal =>
      cases read : Docs.literalValue literal with
      | ok name => simpa [named, read, eq_comm] using yields
      | error error => simp [named, read] at yields

/-- The calling convention that the last of some marks names, if they can be
read. -/
def lastMarkedAbi (usual : Abi) (marks : List Source.ExternMark) : Abi :=
  marks.foldl (fun _ mark => markedAbi mark) usual

theorem eq_of_on_lastAbi
    {usual abi : Abi}
    {marks : List Source.ExternMark}
    (yields : on (lastAbi usual marks) found = (.ok abi, later)) :
    abi = lastMarkedAbi usual marks ∧ later = found := by
  unfold lastAbi at yields
  unfold lastMarkedAbi
  induction marks generalizing usual found with
  | nil =>
      cases yields
      exact ⟨rfl, rfl⟩
  | cons mark marks inductionStep =>
      obtain ⟨_, _, named, others⟩ := on_bind_eq_ok_iff.1 yields
      obtain ⟨rfl, rfl⟩ := eq_of_on_abiOf named
      exact inductionStep others

/-- The signature of a function. -/
def signatureOf (kind : FnKind) (usual : Abi) (head : Source.FunctionHead) :
    Signature where
  text := head.signature
  safety := if head.isUnsafe then .unchecked else .normal
  constness := if head.isConst then .const else .notConst
  abi := lastMarkedAbi usual head.externMarks
  kind

theorem eq_of_on_signature
    {kind : FnKind}
    {usual : Abi}
    {head : Source.FunctionHead}
    {value : Signature}
    (yields : on (signature kind usual head) found = (.ok value, later)) :
    value = signatureOf kind usual head ∧ later = found := by
  obtain ⟨_, _, named, built⟩ := on_bind_eq_ok_iff.1 yields
  obtain ⟨rfl, rfl⟩ := eq_of_on_lastAbi named
  cases built
  exact ⟨rfl, rfl⟩

/-- The item of a trait or a block that a declaration makes. -/
def assocItemOf? (kind : FnKind) (docs : List WideText) :
    Declaration → Option AssocItem
  | .function head =>
    some ⟨head.name, head.visibility, docs,
      .method (signatureOf kind .rust head)⟩
  | .constant name visibility typeText valueText =>
    some ⟨name, visibility, docs, .constant typeText valueText⟩
  | .typeBound name boundText =>
    some ⟨name, .inherited, docs, .type boundText⟩
  | .typeAlias name visibility typeText =>
    some ⟨name, visibility, docs, .type (some typeText)⟩
  | .macroCall nameText text =>
    some ⟨nameText, .inherited, docs, .macroCall text⟩
  | _ => none

theorem eq_of_on_assocItem?
    {kind : FnKind}
    {docs : List WideText}
    {declaration : Declaration}
    {value : Option AssocItem}
    (yields : on (assocItem? kind docs declaration) found =
      (.ok value, later)) :
    value = assocItemOf? kind docs declaration ∧ later = found := by
  cases declaration with
  | function head =>
      simp only [assocItem?, on_bind_eq_ok_iff, on_pure, Prod.mk.injEq,
        Except.ok.injEq] at yields
      obtain ⟨_, _, signed, rfl, rfl⟩ := yields
      obtain ⟨rfl, rfl⟩ := eq_of_on_signature signed
      exact ⟨rfl, rfl⟩
  | _ => simpa [assocItem?, assocItemOf?, eq_comm] using yields

/-- The documented items of the body of a trait or a block. -/
def assocItemsOf (skipsHidden : Bool) (kind : FnKind)
    (noted : List (List Note × Declaration)) : List AssocItem :=
  (shownAmong skipsHidden noted).filterMap fun part =>
    assocItemOf? kind part.1.docs part.2

theorem eq_of_on_assocItems
    {kind : FnKind}
    {pending : List Note}
    {declarations : List Declaration}
    {values : List AssocItem}
    (yields : on (assocItems basis kind pending declarations) found =
      (.ok values, later)) :
    values = assocItemsOf basis.skipsHidden kind
        (bodyWithNotes pending declarations) ∧
      later = found := by
  fun_induction assocItems basis kind pending declarations generalizing
    values found later with
  | case1 pending =>
      simp only [on_pure, Prod.mk.injEq, Except.ok.injEq] at yields
      simp [bodyWithNotes, assocItemsOf, shownAmong, ← yields.1, yields.2]
  | case2 pending text rest inductionStep =>
      rw [on_bind_eq_ok_iff] at yields
      obtain ⟨_, _, read, others⟩ := yields
      obtain ⟨rfl, rfl⟩ := eq_of_on_remarks read
      exact inductionStep others
  | case3 pending note rest notInner inductionStep =>
      rw [bodyWithNotes]
      · exact inductionStep yields
      · exact notInner
  | case4 pending declaration rest notInner notNote inductionStep =>
      obtain ⟨_, _, read, made⟩ := on_bind_eq_ok_iff.1 yields
      obtain ⟨rfl, rfl⟩ := eq_of_on_remarks read
      rw [bodyWithNotes, assocItemsOf, shownAmong_cons, isShown]
      · cases hides : basis.skipsHidden && (said pending).hidden with
        | true =>
            rw [hides, if_pos rfl] at made
            exact inductionStep made
        | false =>
            rw [hides, if_neg Bool.false_ne_true, on_bind_eq_ok_iff] at made
            obtain ⟨_, _, one, several⟩ := made
            obtain ⟨_, _, others, built⟩ := on_bind_eq_ok_iff.1 several
            obtain ⟨rfl, rfl⟩ := eq_of_on_assocItem? one
            obtain ⟨rfl, rfl⟩ := inductionStep others
            cases built
            simp only [Bool.not_false, if_true, List.filterMap_cons]
            cases assocItemOf? kind (said pending).docs declaration with
            | none => exact ⟨rfl, trivial⟩
            | some item => exact ⟨rfl, trivial⟩
      · exact notInner
      · exact notNote

/-! ## Foreign functions -/

/-- The function that a declaration is. -/
def functionHead? : Declaration → Option Source.FunctionHead
  | .function head => some head
  | _ => none

/-- The functions among declarations, with the notes before each. -/
def functionsAmong (noted : List (List Note × Declaration)) :
    List (List Note × Source.FunctionHead) :=
  noted.filterMap fun part => (functionHead? part.2).map (part.1, ·)

/-- The documented ones among foreign functions. -/
def foreignItemsOf (skipsHidden : Bool) (owner : ItemPath) (abi : Abi)
    (functions : List (List Note × Source.FunctionHead)) : List Item :=
  (shownAmong skipsHidden functions).map fun part =>
    .function ⟨part.2.name, owner.push part.2.name, part.2.visibility,
      part.1.docs⟩ (signatureOf .freeFn abi part.2)

/-- The paths of the foreign functions that are left out. -/
def foreignHidden (skipsHidden : Bool) (owner : ItemPath)
    (functions : List (List Note × Source.FunctionHead)) : List ItemPath :=
  (functions.filter (!isShown skipsHidden ·.1)).map fun part =>
    owner.push part.2.name

/-- After a job, more hidden paths and `impl` blocks may have been found. -/
structure Adds (hidden : List ItemPath) (impls : List Impl)
    (found later : Findings) : Prop where
  hidden_iff : ∀ path,
    path ∈ later.hidden ↔ path ∈ found.hidden ∨ path ∈ hidden
  impls_eq : later.impls = found.impls ++ impls

theorem adds_nothing
    {found later : Findings}
    (sameHidden : later.hidden = found.hidden)
    (sameImpls : later.impls = found.impls) :
    Adds [] [] found later where
  hidden_iff := by simp [sameHidden]
  impls_eq := by simp [sameImpls]

theorem Adds.trans
    {firstHidden secondHidden : List ItemPath}
    {firstImpls secondImpls : List Impl}
    {found middle later : Findings}
    (first : Adds firstHidden firstImpls found middle)
    (second : Adds secondHidden secondImpls middle later) :
    Adds (firstHidden ++ secondHidden) (firstImpls ++ secondImpls)
      found later where
  hidden_iff path := by
    rw [second.hidden_iff, first.hidden_iff, List.mem_append, or_assoc]
  impls_eq := by
    rw [second.impls_eq, first.impls_eq, List.append_assoc]

/-- Something that is not skipped is not hidden, or hidden items are not
skipped. -/
theorem of_on_isSkipped_false
    {notes : List Note}
    {path? : Option ItemPath}
    (yields : on (isSkipped basis (said notes) path?) found =
      (.ok false, later)) :
    isShown basis.skipsHidden notes = true ∧ later = found := by
  unfold isSkipped at yields
  unfold isShown
  cases hides : basis.skipsHidden && (said notes).hidden with
  | false =>
      rw [hides, if_neg Bool.false_ne_true] at yields
      cases yields
      exact ⟨rfl, rfl⟩
  | true =>
      rw [hides, if_pos rfl] at yields
      cases path? with
      | none => cases yields
      | some path => cases yields

/-- The path of something that is skipped is remembered, if it has one. -/
theorem of_on_isSkipped_true
    {notes : List Note}
    {path? : Option ItemPath}
    (yields : on (isSkipped basis (said notes) path?) found =
      (.ok true, later)) :
    isShown basis.skipsHidden notes = false ∧
      Adds path?.toList [] found later := by
  unfold isSkipped at yields
  unfold isShown
  cases hides : basis.skipsHidden && (said notes).hidden with
  | false =>
      rw [hides, if_neg Bool.false_ne_true] at yields
      cases yields
  | true =>
      rw [hides, if_pos rfl] at yields
      refine ⟨rfl, ?_⟩
      cases path? with
      | none =>
          cases yields
          exact adds_nothing rfl rfl
      | some path =>
          cases yields
          refine ⟨fun other => ?_, by simp⟩
          -- A path that is known to be hidden is not added once more.
          by_cases known : path ∈ found.hidden
          · simp only [known, if_true, Option.toList_some,
              List.mem_singleton]
            constructor
            · exact Or.inl
            · rintro (member | rfl)
              · exact member
              · exact known
          · simp [known]

theorem of_on_foreignItems
    {place : Place}
    {abi : Abi}
    {pending : List Note}
    {declarations : List Declaration}
    {items : List Item}
    (yields : on (foreignItems basis place abi pending declarations) found =
      (.ok items, later)) :
    let functions := functionsAmong (bodyWithNotes pending declarations)
    items = foreignItemsOf basis.skipsHidden place.path abi functions ∧
      Adds (foreignHidden basis.skipsHidden place.path functions) []
        found later := by
  intro functions
  fun_induction foreignItems basis place abi pending declarations generalizing
    items found later with
  | case1 pending =>
      cases yields
      exact ⟨rfl, adds_nothing rfl rfl⟩
  | case2 pending text rest inductionStep =>
      exact inductionStep yields
  | case3 pending note rest notInner inductionStep =>
      have shape : functions =
          functionsAmong (bodyWithNotes (pending ++ [note]) rest) := by
        rw [← bodyWithNotes.eq_3 _ _ _ notInner]
      rw [shape]
      exact inductionStep yields
  | case4 pending head rest inductionStep =>
      obtain ⟨_, _, read, skips⟩ := on_bind_eq_ok_iff.1 yields
      obtain ⟨rfl, rfl⟩ := eq_of_on_remarks read
      obtain ⟨skipped, _, asked, more⟩ := on_bind_eq_ok_iff.1 skips
      have shape : functions = (pending, head) ::
        functionsAmong (bodyWithNotes [] rest) := rfl
      rw [shape, foreignItemsOf, shownAmong_cons, foreignHidden,
        List.filter_cons]
      cases skipped with
      | true =>
          obtain ⟨hides, added⟩ := of_on_isSkipped_true asked
          obtain ⟨rfl, others⟩ := inductionStep more
          rw [hides]
          exact ⟨rfl, added.trans others⟩
      | false =>
          obtain ⟨shown, rfl⟩ := of_on_isSkipped_false asked
          obtain ⟨_, _, signed, several⟩ := on_bind_eq_ok_iff.1 more
          obtain ⟨_, _, done, built⟩ := on_bind_eq_ok_iff.1 several
          obtain ⟨rfl, rfl⟩ := eq_of_on_signature signed
          obtain ⟨rfl, others⟩ := inductionStep done
          cases built
          rw [shown]
          exact ⟨rfl, others⟩
  | case5 pending declaration rest notInner notNote notFunction
      inductionStep =>
      have noFunction : functionHead? declaration = none := by
        cases declaration with
        | function head => exact absurd rfl (notFunction head)
        | _ => rfl
      have shape : functions = functionsAmong (bodyWithNotes [] rest) := by
        unfold functions
        rw [bodyWithNotes.eq_4 _ _ _ notInner notNote, functionsAmong,
          List.filterMap_cons, noFunction]
        rfl
      rw [shape]
      exact inductionStep yields

/-! ## Other items -/

/-- The documented items that a declaration other than a module, an import or
a block makes, under its path. -/
def plainItemsOf (skipsHidden : Bool) (path : ItemPath)
    (docs : List WideText) : Declaration → List Item
  | .struct name visibility list =>
    let fields := fieldsOf skipsHidden list
    [.struct ⟨name, path, visibility, docs⟩ fields.1 fields.2]
  | .enum name visibility parts =>
    [.enum ⟨name, path, visibility, docs⟩ (variantsOf skipsHidden parts)]
  | .function head =>
    [.function ⟨head.name, path, head.visibility, docs⟩
      (signatureOf .freeFn .rust head)]
  | .constant name visibility typeText valueText =>
    [.constant ⟨name, path, visibility, docs⟩ typeText
      (valueText.getD "")]
  | .trait name visibility isUnsafe body =>
    [.trait ⟨name, path, visibility, docs⟩
      (if isUnsafe then .unchecked else .normal)
      (assocItemsOf skipsHidden .traitMethod (bodyWithNotes [] body))]
  | .macroRules name =>
    [.macroRules ⟨name, path, .inherited, docs⟩ ("macro_rules! " ++ name)]
  | _ => []

theorem eq_of_on_plainItems
    {path : ItemPath}
    {docs : List WideText}
    {declaration : Declaration}
    {items : List Item}
    (yields : on (plainItems basis path docs declaration) found =
      (.ok items, later)) :
    items = plainItemsOf basis.skipsHidden path docs declaration ∧
      later = found := by
  cases declaration with
  | struct name visibility list =>
      obtain ⟨_, _, read, built⟩ := on_bind_eq_ok_iff.1 yields
      obtain ⟨rfl, rfl⟩ := eq_of_on_fields read
      cases built
      exact ⟨rfl, rfl⟩
  | enum name visibility parts =>
      obtain ⟨_, _, read, built⟩ := on_bind_eq_ok_iff.1 yields
      obtain ⟨rfl, rfl⟩ := eq_of_on_variants read
      cases built
      exact ⟨rfl, rfl⟩
  | function head =>
      obtain ⟨_, _, signed, built⟩ := on_bind_eq_ok_iff.1 yields
      obtain ⟨rfl, rfl⟩ := eq_of_on_signature signed
      cases built
      exact ⟨rfl, rfl⟩
  | trait name visibility isUnsafe body =>
      obtain ⟨_, _, read, built⟩ := on_bind_eq_ok_iff.1 yields
      obtain ⟨rfl, rfl⟩ := eq_of_on_assocItems read
      cases built
      exact ⟨rfl, rfl⟩
  | _ =>
      cases yields
      exact ⟨rfl, rfl⟩

/-! ## The bodies of modules -/

section

variable [Depths]

/-- The file that a module is read from and its declarations, if there is one
that can be read. -/
def loaded? (files : FileTree) (place : Place) (name : String)
    (override? : Option WideText) : Option (DiskPath × List Declaration) :=
  match place.file?, place.directory? with
  | some file, some directory =>
    match firstFile? files (moduleFiles directory file name override?) with
    | .ok (some found) =>
      match readText files found with
      | .ok text => (Source.parse text).toOption.map (found, ·)
      | .error _ => none
    | _ => none
  | _, _ => none

omit [Depths] in
theorem mem_of_firstFile?
    {files : FileTree}
    {paths : List DiskPath}
    {path : DiskPath}
    (first : firstFile? files paths = .ok (some path)) :
    path ∈ paths := by
  induction paths with
  | nil => cases first
  | cons other paths inductionStep =>
      obtain ⟨isFile, _, found⟩ := bind_eq_ok_iff.1 first
      split at found
      · cases found
        exact List.mem_cons_self
      · exact List.mem_cons_of_mem _ (inductionStep found)

/-- What is loaded for a module is the first file there is for it. -/
theorem loaded?_eq_some_iff
    {files : FileTree}
    {place : Place}
    {name : String}
    {override? : Option WideText}
    {path : DiskPath}
    {declarations : List Declaration} :
    loaded? files place name override? = some (path, declarations) ↔
      ∃ file directory,
        place.file? = some file ∧ place.directory? = some directory ∧
          firstFile? files (moduleFiles directory file name override?) =
            .ok (some path) ∧
          ∃ text, readText files path = .ok text ∧
            Source.parse text = .ok declarations := by
  unfold loaded?
  constructor
  · intro loads
    split at loads
    · rename_i file directory filed placed
      split at loads
      · rename_i found first
        split at loads
        · rename_i text read
          obtain ⟨_, parsed, same⟩ := Option.map_eq_some_iff.1 loads
          cases same
          exact ⟨file, directory, filed, placed, first, text, read,
            toOption_eq_some_iff.1 parsed⟩
        · cases loads
      · cases loads
    · cases loads
  · rintro ⟨file, directory, filed, placed, first, text, read, parsed⟩
    rw [filed, placed]
    dsimp only
    rw [first]
    dsimp only
    rw [read]
    dsimp only
    rw [parsed]
    rfl

theorem on_parseFile_eq_ok_iff
    {name text : String}
    {declarations : List Declaration} :
    on (parseFile name text) found = (.ok declarations, later) ↔
      Source.parse text = .ok declarations ∧ later = found := by
  unfold parseFile
  rw [on_ofExcept, Prod.mk.injEq, mapError_eq_ok_iff, eq_comm (a := found)]

theorem of_on_loadModule
    {place : Place}
    {path : ItemPath}
    {name : String}
    {override? : Option WideText}
    {value : Option (DiskPath × List Declaration)}
    (yields : on (loadModule basis place path name override?) found =
      (.ok value, later)) :
    value = loaded? basis.files place name override? ∧
      Adds [] [] found later := by
  cases filed : place.file? with
  | none =>
      simp only [loadModule, loaded?, filed] at yields ⊢
      cases yields
      exact ⟨rfl, adds_nothing rfl rfl⟩
  | some file =>
      cases placed : place.directory? with
      | none =>
          simp only [loadModule, loaded?, filed, placed] at yields ⊢
          cases yields
          exact ⟨rfl, adds_nothing rfl rfl⟩
      | some directory =>
          simp only [loadModule, loaded?, filed, placed] at yields ⊢
          obtain ⟨found?, _, looked, loads⟩ := on_bind_eq_ok_iff.1 yields
          rw [on_ofExcept, Prod.mk.injEq, mapError_eq_ok_iff] at looked
          obtain ⟨looked, rfl⟩ := looked
          simp only [looked]
          cases found? with
          | none =>
              cases loads
              exact ⟨rfl, adds_nothing rfl rfl⟩
          | some path =>
              obtain ⟨_, _, told, reads⟩ := on_bind_eq_ok_iff.1 loads
              obtain ⟨text, _, read, parses⟩ := on_bind_eq_ok_iff.1 reads
              obtain ⟨_, _, done, built⟩ := on_bind_eq_ok_iff.1 parses
              rw [on_ofExcept, Prod.mk.injEq, mapError_eq_ok_iff] at read
              obtain ⟨read, rfl⟩ := read
              cases told
              obtain ⟨parsed, rfl⟩ := on_parseFile_eq_ok_iff.1 done
              cases built
              simp only [read, parsed]
              exact ⟨rfl, adds_nothing rfl rfl⟩

end

end CrateShelf.Tree
