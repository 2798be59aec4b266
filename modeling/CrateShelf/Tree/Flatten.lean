import CrateShelf.Record.Basic
import CrateShelf.Tree.Resolve
import CrateShelf.Tree.Visit

/-!
# The records of a crate

A crate is documented by a list of records, depth first: a module, then its
items in the order of their declaration.  The items of `impl` blocks follow,
block by block, and are linked from the record of the type that the block is
about.
-/

namespace CrateShelf.Tree

/-- A function's signature as it is recorded. -/
def Signature.data (signature : Signature) : FunctionData where
  signature := signature.text
  safety := some signature.safety
  constness := some signature.constness
  abi := some signature.abi
  kind := some signature.kind

/-- A field as it is recorded. -/
def Field.data (field : Field) : FieldData where
  ident := field.name
  visibility := field.visibility
  typeText := field.typeText
  summary := some (Record.summaryOf field.docs)

/-- A variant as it is recorded. -/
def Variant.data (variant : Variant) : VariantData where
  ident := variant.name
  dataText := some variant.dataText
  summary := some (Record.summaryOf variant.docs)

namespace AssocContent

/-- An item of a trait or an `impl` block as it is recorded. -/
def payload : AssocContent → Payload
  | constant typeText valueText => .constant ⟨typeText, some valueText⟩
  | method signature => .function signature.data
  | type text => .type ⟨some text⟩
  | macroCall text => .macroRules ⟨text⟩

/-- The kind of an item declared in a trait. -/
def traitKind : AssocContent → Kind
  | constant _ _ => .traitItemConst
  | method _ => .traitItemMethod
  | type _ => .traitItemType
  | macroCall _ => .traitItemMacro

/-- The kind of an item declared in an `impl` block. -/
def implKind : AssocContent → Kind
  | constant _ _ => .assocConst
  | method _ => .function
  | type _ => .assocType
  | macroCall _ => .macroRules

end AssocContent

/-- The kind and head of an item that its module links to. -/
def Item.linked? : Item → Option (Kind × Head)
  | .module head _ _ => some (.module, head)
  | .struct head _ _ => some (.struct, head)
  | .enum head _ => some (.enum, head)
  | .function head _ => some (.function, head)
  | .constant head _ _ => some (.constant, head)
  | .trait head _ _ => some (.trait, head)
  | .macroRules head _ => some (.macroRules, head)
  | .importing _ _ | .impl _ => none

/-- The links of a module to its items of a kind. -/
def linksOfKind (items : List Item) (kind : Kind) : List Link :=
  items.filterMap fun item =>
    match item.linked? with
    | some (other, head) =>
      if other = kind then some ⟨head.name, head.path⟩ else none
    | none => none

/-- The links of a module to its items, by kind. -/
def moduleLinks (items : List Item) : Links :=
  Kind.linkCategories .module |>.filterMap fun kind =>
    match linksOfKind items kind with
    | [] => none
    | links => some (kind, links)

/-- Links of one kind, as a record keeps them. -/
def filed (kind : Kind) (links : List Link) : Links :=
  if links.isEmpty then [] else [(kind, links)]

section

variable (crate : CrateId)

/-- The record of an item with a head. -/
def Head.record (head : Head) (kind : Kind) (payload : Payload)
    (links : Links) : Record where
  name := head.name
  kind
  crate
  path := head.path
  visibility := head.visibility
  docs := head.docs.map .ofWide
  payload
  links

/-- The record of a named field of a struct. -/
def Field.record? (owner : ItemPath) (field : Field) : Option Record :=
  field.name.map fun (ident : String) => {
    name := ident
    kind := .structField
    crate
    path := owner.push ident
    visibility := field.visibility
    docs := field.docs.map .ofWide
    payload := .field field.data }

/-- The record of a variant of an enum. -/
def Variant.record (owner : ItemPath) (variant : Variant) : Record where
  name := variant.name
  kind := .variant
  crate
  path := owner.push variant.name
  visibility := .inherited
  docs := variant.docs.map .ofWide
  payload := .variant variant.data

/-- The record of an item of a trait or an `impl` block. -/
def AssocItem.record (owner : ItemPath) (kind : Kind)
    (context : Option ImplContext) (item : AssocItem) : Record where
  name := item.name
  kind
  crate
  path := owner.push item.name
  visibility := item.visibility
  docs := item.docs.map .ofWide
  payload := item.content.payload
  implContext := context

/-- A reference to a record. -/
def linkTo (record : Record) : Link := ⟨record.name, record.path⟩

/-- The records of a struct and its named fields. -/
def structRecords (head : Head) (fields : List Field) (isTuple : Bool) :
    List Record :=
  let parts := fields.filterMap (Field.record? crate head.path)
  head.record crate .struct (.struct ⟨fields.map Field.data, some isTuple⟩)
    (filed .structField (parts.map linkTo)) :: parts

/-- The records of an enum and its variants. -/
def enumRecords (head : Head) (variants : List Variant) : List Record :=
  let parts := variants.map (Variant.record crate head.path)
  head.record crate .enum (.enum ⟨variants.map Variant.data⟩)
    (filed .variant (parts.map linkTo)) :: parts

/-- The records of a trait and its items. -/
def traitRecords (head : Head) (safety : Safety) (items : List AssocItem) :
    List Record :=
  let parts := items.map fun item =>
    item.record crate head.path item.content.traitKind none
  let links := parts.foldl
    (fun links part => Links.add links part.kind (linkTo part)) []
  head.record crate .trait (.trait ⟨some safety⟩) links :: parts

mutual

/-- The records of an item and all that is declared in it. -/
def Item.records : Item → List Record
  | .module head info items =>
    head.record crate .module (.module ⟨some info.isRoot⟩)
      (moduleLinks items) :: recordsOfAll items
  | .struct head fields isTuple => structRecords crate head fields isTuple
  | .enum head variants => enumRecords crate head variants
  | .function head signature =>
    [head.record crate .function (.function signature.data) []]
  | .constant head typeText valueText =>
    [head.record crate .constant
      (.constant ⟨typeText, some (some valueText)⟩) []]
  | .trait head safety items => traitRecords crate head safety items
  | .macroRules head text =>
    [head.record crate .macroRules (.macroRules ⟨text⟩) []]
  | .importing _ _ | .impl _ => []

/-- The records of items, one after the other. -/
def recordsOfAll : List Item → List Record
  | [] => []
  | item :: rest => item.records ++ recordsOfAll rest

end

/-- The records of the items of an `impl` block. -/
def Attached.records (attached : Attached) : List Record :=
  let block := attached.block
  let context : ImplContext :=
    ⟨block.targetText, some block.traitText, some block.safety⟩
  block.items.map fun item =>
    item.record crate attached.target item.content.implKind (some context)

end

/-- Whether a record documents a type at a path. -/
def isTypeAt (path : ItemPath) (record : Record) : Bool :=
  record.path = path &&
    (record.kind = .struct || record.kind = .enum || record.kind = .trait)

/-- A list with the last element changed that has a property. -/
def changeLast {α : Type} (property : α → Bool) (change : α → α) :
    List α → List α
  | [] => []
  | first :: rest =>
    if property first && !rest.any property then change first :: rest
    else first :: changeLast property change rest

/-- Records with links from the type at a path to further records. -/
def linkFrom (path : ItemPath) (records parts : List Record) : List Record :=
  if parts.isEmpty then records
  else
    changeLast (isTypeAt path)
      (fun record => { record with
        links := parts.foldl
          (fun links part => links.add part.kind (linkTo part)) record.links })
      records

/-- The records of a crate, its `impl` blocks being attached to paths. -/
def flatten (crate : CrateId) (tree : CrateTree) (blocks : List Attached) :
    List Record :=
  let linked := blocks.foldl
    (fun records attached =>
      linkFrom attached.target records (attached.records crate))
    (tree.root.records crate)
  linked ++ blocks.flatMap (Attached.records crate)

/-- The log entry on the number of records of a crate. -/
def flattenedEntry (crate : CrateId) (records : List Record) : LogEntry :=
  ⟨.info, "flattener", "Flattened " ++ toString records.length ++
    " records for " ++ crate.toText⟩

/-! ## From the text of the root file -/

variable [Depths]

/-- Reads the tree of a crate from the text of its root file.  The log is
kept also when the crate cannot be read. -/
def readTree (files : FileTree) (crate : CrateId) (skipsHidden : Bool)
    (text : String) (file? : Option DiskPath) :
    Except TreeError CrateTree × List LogEntry :=
  let basis : Basis :=
    { files, root := ⟨[CrateId.identifier crate.name.written]⟩, skipsHidden }
  ((visitCrate basis text file?).run.run {}).map id Findings.log

/-- The records of a crate, and what is said on the way. -/
def records (crate : CrateId) (tree : CrateTree) :
    List Record × List LogEntry :=
  let resolved := resolve tree
  let records := flatten crate tree resolved.1
  (records, resolved.2 ++ [flattenedEntry crate records])

/-- The records of a crate after it was read, and all that is said. -/
def recordsAfter (crate : CrateId) :
    Except TreeError CrateTree × List LogEntry →
      Except TreeError (List Record) × List LogEntry
  | (.error error, log) => (.error error, log)
  | (.ok tree, log) =>
    let documented := records crate tree
    (.ok documented.1, log ++ documented.2)

/-- The records of a crate from the text of its root file. -/
def document (files : FileTree) (crate : CrateId) (skipsHidden : Bool)
    (text : String) (file? : Option DiskPath) :
    Except TreeError (List Record) × List LogEntry :=
  recordsAfter crate (readTree files crate skipsHidden text file?)

end CrateShelf.Tree
