import CrateShelf.Depths
import CrateShelf.Disk.FileTree
import CrateShelf.Log
import CrateShelf.Source.File
import CrateShelf.Text.Lines
import CrateShelf.Tree.Item

/-!
# Reading a crate

Walks the declarations of a crate depth first.  Comments and attributes are
gathered until the declaration that they belong to; modules in files of their
own are read where they are declared.
-/

namespace CrateShelf.Tree

/-!
## The files of modules

Where the file of a module is looked for, and how it is read.
-/

/-- The files that a module may be read from, in order.  A file named by an
attribute is taken relative to the declaring file; an empty name does not
count, and there is no file of a name that cannot be encoded. -/
def moduleFiles (directory file : DiskPath) (name : String)
    (override? : Option WideText) : List DiskPath :=
  match override?.filter (· ≠ .whole "") with
  | some text => (text.fileName?.map file.parent.child).toList
  | none =>
    [directory.child (name ++ ".rs"), (directory.child name).child "mod.rs"]

/-- The files that a module may be read from, as they are told, also where
there can be no file of such a name. -/
def toldFiles (directory file : DiskPath) (name : String)
    (override? : Option WideText) : List DiskPath :=
  match override?.filter (· ≠ .whole "") with
  | some text => [file.parent.child text.written]
  | none => moduleFiles directory file name none

/-- The directory of the children of a module, given its file. -/
def childDirectory (file : DiskPath) : DiskPath :=
  if file.name ∈ ["mod.rs", "lib.rs", "main.rs"] then file.parent
  else file.parent.child file.stem

/-- Why a source file cannot be read. -/
inductive ReadCause where
  | disk (fault : DiskFault)
  | undecodable (error : Utf8Error)
deriving Repr

/-- The wording of the cause. -/
def ReadCause.message : ReadCause → String
  | .disk fault => fault.message
  | .undecodable error => error.message

/-- The text of a file, with one sort of line end. -/
def readText (files : FileTree) (path : DiskPath) :
    Except ReadCause String := do
  let bytes ← (files.read path).mapError .disk
  let text ← (Bytes.decodeText bytes).mapError .undecodable
  return String.ofList (Text.unifyLineEnds text.toList)

/-- The first of some paths at which there is a file. -/
def firstFile? (files : FileTree) :
    List DiskPath → Except DiskFault (Option DiskPath)
  | [] => return none
  | path :: rest => do
    if ← files.isFile path then return some path else firstFile? files rest

/-! ## Declarations -/

/-- Why a crate cannot be read. -/
inductive TreeError where
  /-- A line of a file is at fault, or a token is missing on it. -/
  | unparsable (file : String) (line : Nat) (missing : Option String)
  | unreadable (path : DiskPath) (cause : ReadCause)
  | literal (error : Docs.LiteralError)
  | disk (fault : DiskFault)
  /-- Modules are nested too deeply, as when a file contains itself, or the
  path of an import is too long. -/
  | tooDeep

/-- How a source is called: by its file, if it has one. -/
def sourceLabel (file : String) : String :=
  if file = "" then "<string>" else file

/-- The wording of an error, for those that have one. -/
def TreeError.message? : TreeError → Option String
  | unparsable file line missing =>
    some ("Failed to parse " ++ sourceLabel file ++ " at line " ++
      toString line ++
      match missing with
      | some token => ": unexpected " ++ token
      | none => "")
  | unreadable path _ => some ("Failed to read source file: " ++ path.toText)
  | literal error => some error.message
  | disk _ | tooDeep => none

/-- The error for a fault in a file. -/
def TreeError.ofFault (file : String) : Source.Fault → TreeError
  | .broken line missing => unparsable file line missing
  | .tooDeep => tooDeep

/-- What has been found so far, beside the tree. -/
structure Findings where
  impls : List Impl := []
  hidden : List ItemPath := []
  log : List LogEntry := []

/-- Reading a crate can fail; what was found before is kept. -/
abbrev Visit := ExceptT TreeError (StateM Findings)

/-- What stays the same while a crate is read. -/
structure Basis where
  files : FileTree
  root : ItemPath
  /-- Whether hidden items are left out. -/
  skipsHidden : Bool

/-- Where declarations stand. -/
structure Place where
  path : ItemPath
  file? : Option DiskPath
  /-- The directory of the files of the modules declared here. -/
  directory? : Option DiskPath

/-- Adds an entry to the log. -/
def report (level : LogLevel) (source text : String) : Visit Unit :=
  modify fun found => { found with log := found.log ++ [⟨level, source, text⟩] }

/-- What gathered notes say. -/
def remarks (pending : List Docs.Note) : Visit Docs.Remarks :=
  match Docs.Remarks.ofNotes .outer pending with
  | .ok remarks => return remarks
  | .error error => throw (.literal error)

/-- Whether an item is left out; the path of one that is left out is
remembered. -/
def isSkipped (basis : Basis) (remarks : Docs.Remarks)
    (path? : Option ItemPath) : Visit Bool := do
  if basis.skipsHidden && remarks.hidden then
    if let some path := path? then
      modify fun found => { found with
        hidden := if path ∈ found.hidden then found.hidden
          else found.hidden ++ [path] }
    let shown := (path?.map ItemPath.toText).getD "None"
    report .debug "visitor" ("Skipping hidden item " ++ shown)
    return true
  else return false

/-- The calling convention that a mark names. -/
def abiOf (mark : Source.ExternMark) : Visit Abi :=
  match mark.literal with
  | none => return .c
  | some literal =>
    match Docs.literalValue literal with
    | .ok name => return Abi.ofDeclared (WideText.ofPoints name).whole?
    | .error error => throw (.literal error)

/-- The calling convention that the last of some marks names, of which all are
read; without a mark it is a given one. -/
def lastAbi (usual : Abi) (marks : List Source.ExternMark) : Visit Abi :=
  marks.foldlM (fun _ mark => abiOf mark) usual

/-- The signature of a function, where functions without a mark have a given
calling convention. -/
def signature (kind : FnKind) (usual : Abi) (head : Source.FunctionHead) :
    Visit Signature := do
  let abi ← lastAbi usual head.externMarks
  return {
    text := head.signature
    safety := if head.isUnsafe then .unchecked else .normal
    constness := if head.isConst then .const else .notConst
    abi, kind }

/-- Goes through parts of a declaration with the notes gathered before
each, leaving out what is hidden. -/
def gather {α β : Type} (basis : Basis)
    (build : α → Docs.Remarks → β) (pending : List Docs.Note) :
    List (Source.Noted α) → Visit (List β)
  | [] => return []
  | .note note :: rest =>
    gather basis build (pending ++ [note]) rest
  | .part value :: rest => do
    let remarks ← remarks pending
    let others ← gather basis build [] rest
    if basis.skipsHidden && remarks.hidden then return others
    else return build value remarks :: others

/-- The fields of a struct and whether they have no names. -/
def fields (basis : Basis) (list : Source.FieldList) :
    Visit (List Field × Bool) := do
  let build (head : Source.FieldHead) (remarks : Docs.Remarks) : Field :=
    ⟨head.name, head.visibility, head.typeText, remarks.docs⟩
  match list with
  | .unit => return ([], false)
  | .named parts => return (← gather basis build [] parts, false)
  | .ordered parts => return (← gather basis build [] parts, true)

/-- The text of a variant after its name. -/
def variantText (head : Source.VariantHead) : String :=
  match head.valueText with
  | none => head.bodyText
  | some value =>
    String.ofList (Text.trim (head.bodyText ++ " = " ++ value).toList)

/-- The variants of an enum. -/
def variants (basis : Basis)
    (parts : List (Source.Noted Source.VariantHead)) :
    Visit (List Variant) :=
  gather basis
    (fun head remarks => ⟨head.name, variantText head, remarks.docs⟩) [] parts

/-- The item of a trait or an `impl` block that a declaration makes. -/
def assocItem? (kind : FnKind) (docs : List WideText) :
    Source.Declaration → Visit (Option AssocItem)
  | .function head => do
    let signature ← signature kind .rust head
    return some ⟨head.name, head.visibility, docs, .method signature⟩
  | .constant name visibility typeText valueText =>
    return some ⟨name, visibility, docs, .constant typeText valueText⟩
  | .typeBound name boundText =>
    return some ⟨name, .inherited, docs, .type boundText⟩
  | .typeAlias name visibility typeText =>
    return some ⟨name, visibility, docs, .type (some typeText)⟩
  | .macroCall nameText text =>
    return some ⟨nameText, .inherited, docs, .macroCall text⟩
  | _ => return none

/-- The items of the body of a trait or an `impl` block. -/
def assocItems (basis : Basis) (kind : FnKind)
    (pending : List Docs.Note) :
    List Source.Declaration → Visit (List AssocItem)
  | [] => return []
  | .note (.attribute .inner _) :: rest => do
    let _ ← remarks pending
    assocItems basis kind [] rest
  | .note note :: rest =>
    assocItems basis kind (pending ++ [note]) rest
  | declaration :: rest => do
    let remarks ← remarks pending
    if basis.skipsHidden && remarks.hidden then
      assocItems basis kind [] rest
    else
      let item? ← assocItem? kind remarks.docs declaration
      let others ← assocItems basis kind [] rest
      return item?.toList ++ others

/-- The functions of a block of foreign declarations. -/
def foreignItems (basis : Basis) (place : Place) (abi : Abi)
    (pending : List Docs.Note) :
    List Source.Declaration → Visit (List Item)
  | [] => return []
  | .note (.attribute .inner _) :: rest =>
    foreignItems basis place abi [] rest
  | .note note :: rest =>
    foreignItems basis place abi (pending ++ [note]) rest
  | .function head :: rest => do
    let remarks ← remarks pending
    let path := place.path.push head.name
    if ← isSkipped basis remarks (some path) then
      foreignItems basis place abi [] rest
    else
      let signature ← signature .freeFn abi head
      let others ← foreignItems basis place abi [] rest
      return .function ⟨head.name, path, head.visibility, remarks.docs⟩
        signature :: others
  | _ :: rest => foreignItems basis place abi [] rest

/-- What declarations in a module amount to. -/
structure Contents where
  items : List Item := []
  uses : UseTable := []

namespace Contents

/-- The contents with items in front. -/
def prepend (items : List Item) (contents : Contents) : Contents :=
  { contents with items := items ++ contents.items }

end Contents

/-- Records an `impl` block and yields its place in the tree. -/
def recordImpl (basis : Basis) (place : Place) (docs : List WideText)
    (head : Source.ImplHead) (body : Option (List Source.Declaration)) :
    Visit Item := do
  let kind := if head.traitText.isSome then FnKind.traitMethod
    else .inherentMethod
  let items ← assocItems basis kind [] (body.getD [])
  let order := (← get).impls.length
  let block : Impl := {
    modulePath := place.path
    targetText := head.targetText
    traitText := head.traitText
    safety := if head.isUnsafe then .unchecked else .normal
    items, docs
    file? := place.file?
    start := head.start
    order }
  modify fun found => { found with impls := found.impls ++ [block] }
  return .impl order

/-- The name of a declaration that can be hidden under its path. -/
def nameOf? : Source.Declaration → Option String
  | .module name _ _ | .struct name _ _ | .enum name _ _
  | .constant name _ _ _ | .trait name _ _ _ | .macroRules name
  | .typeBound name _ | .typeAlias name _ _ | .named name => some name
  | .function head => some head.name
  | _ => none

/-- The items that a declaration other than a module, an import or a block
makes, under its path. -/
def plainItems (basis : Basis) (path : ItemPath) (docs : List WideText) :
    Source.Declaration → Visit (List Item)
  | .struct name visibility list => do
    let (fields, isTuple) ← fields basis list
    return [.struct ⟨name, path, visibility, docs⟩ fields isTuple]
  | .enum name visibility parts => do
    return [.enum ⟨name, path, visibility, docs⟩ (← variants basis parts)]
  | .function head => do
    let signature ← signature .freeFn .rust head
    return [.function ⟨head.name, path, head.visibility, docs⟩ signature]
  | .constant name visibility typeText valueText =>
    return [.constant ⟨name, path, visibility, docs⟩ typeText
      (valueText.getD "")]
  | .trait name visibility isUnsafe body => do
    let items ← assocItems basis .traitMethod [] body
    return [.trait ⟨name, path, visibility, docs⟩
      (if isUnsafe then .unchecked else .normal) items]
  | .macroRules name =>
    return [.macroRules ⟨name, path, .inherited, docs⟩
      ("macro_rules! " ++ name)]
  | _ => return []

variable [Depths]

/-- The documentation that declarations give to the module around them. -/
def innerDocs (declarations : List Source.Declaration) :
    Visit (List WideText) :=
  match Docs.Remarks.ofNotes .inner
      (declarations.filterMap Source.Declaration.note?) with
  | .ok remarks => return remarks.docs
  | .error error => throw (.literal error)

/-- The declarations of a file, or a fault that names it. -/
def parseFile (name : String) (text : String) :
    Visit (List Source.Declaration) :=
  MonadExcept.ofExcept ((Source.parse text).mapError (.ofFault name))

/-- The file that a module is read from, its declarations and the directory
of its children; nothing if there is no such file. -/
def loadModule (basis : Basis) (place : Place) (path : ItemPath)
    (name : String) (override? : Option WideText) :
    Visit (Option (DiskPath × List Source.Declaration)) := do
  match place.file?, place.directory? with
  | some file, some directory =>
    let candidates := moduleFiles directory file name override?
    let found? ← MonadExcept.ofExcept
      ((firstFile? basis.files candidates).mapError .disk)
    match found? with
    | none =>
      let looked := ", ".intercalate
        ((toldFiles directory file name override?).map DiskPath.toText)
      report .warning "module_loader" ("Module " ++ name ++
        " not found (looked in " ++ looked ++ "); skipping its contents")
      return none
    | some found =>
      report .debug "visitor" ("Loading module " ++ path.toText ++ " from " ++
        found.toText)
      let text ← MonadExcept.ofExcept
        ((readText basis.files found).mapError (.unreadable found))
      return some (found, ← parseFile found.toText text)
  | _, _ =>
    report .warning "visitor" ("Cannot load out-of-line module " ++
      path.toText ++ " without a source file")
    return none

/-- Goes through declarations in a module with the notes gathered
before each.  How the modules among them are read is given. -/
def visitAll (basis : Basis) (place : Place)
    (visitModule : Docs.Remarks → String → Visibility →
      Option (List Source.Declaration) → Visit Item)
    (pending : List Docs.Note) (uses : UseTable) :
    List Source.Declaration → Visit Contents
  | [] => return { uses }
  | .note (.attribute .inner _) :: rest =>
    visitAll basis place visitModule pending uses rest
  | .note note :: rest =>
    visitAll basis place visitModule (pending ++ [note]) uses rest
  | declaration :: rest => do
    let remarks ← remarks pending
    let more (items : List Item) : Visit Contents := do
      return Contents.prepend items
        (← visitAll basis place visitModule [] uses rest)
    match declaration with
    | .importing text visibility tree =>
      if Depths.imports < tree.depth then throw .tooDeep
      let uses := uses.addTree place.path basis.root tree
      return Contents.prepend [.importing text visibility]
        (← visitAll basis place visitModule [] uses rest)
    | .impl head body =>
      if ← isSkipped basis remarks none then more []
      else more [← recordImpl basis place remarks.docs head body]
    | .foreign mark body =>
      let abi ← abiOf mark
      more (← foreignItems basis place abi [] (body.getD []))
    | declaration =>
      match nameOf? declaration with
      | none => more []
      | some name =>
        let path := place.path.push name
        if ← isSkipped basis remarks (some path) then more []
        else
          match declaration with
          | .module name visibility body =>
            more [← visitModule remarks name visibility body]
          | _ => more (← plainItems basis path remarks.docs declaration)

/-- Reads the declarations in a module, with modules nested at most a number
of times: its documentation, imports and items. -/
def visitContainer (basis : Basis) :
    (depth : Nat) → Place → List Source.Declaration →
      Visit (List WideText × Contents)
  | 0, _, _ => throw .tooDeep
  | depth + 1, place, declarations => do
    let docs ← innerDocs declarations
    let visitModule (remarks : Docs.Remarks) (name : String)
        (visibility : Visibility)
        (body : Option (List Source.Declaration)) : Visit Item := do
      let path := place.path.push name
      let build (file? : Option DiskPath) (inner : List WideText)
          (contents : Contents) : Item :=
        .module ⟨name, path, visibility, remarks.docs ++ inner⟩
          { file?, uses := contents.uses } contents.items
      match body with
      | some body =>
        let directory? := place.directory?.map (·.child name)
        let (inner, contents) ← visitContainer basis depth
          ⟨path, place.file?, directory?⟩ body
        return build place.file? inner contents
      | none =>
        match ← loadModule basis place path name remarks.file? with
        | none => return build place.file? [] {}
        | some (file, declarations) =>
          let (inner, contents) ← visitContainer basis depth
            ⟨path, some file, some (childDirectory file)⟩ declarations
          return build (some file) inner contents
    return (docs, ← visitAll basis place visitModule [] [] declarations)

/-- Reads a crate from the text of its root file. -/
def visitCrate (basis : Basis) (text : String)
    (file? : Option DiskPath) : Visit CrateTree := do
  let name := (file?.map DiskPath.toText).getD ""
  let declarations ← parseFile name text
  let place : Place :=
    ⟨basis.root, file?, file?.map DiskPath.parent⟩
  let (docs, contents) ← visitContainer basis Depths.modules place declarations
  let found ← get
  return {
    head := ⟨basis.root.name?.getD "", basis.root, .everywhere, docs⟩
    info := { isRoot := true, file?, uses := contents.uses }
    items := contents.items
    impls := found.impls
    hidden := found.hidden }

end CrateShelf.Tree
