import CrateShelf.Pack.Format
import CrateShelf.Record.Basic
import CrateShelf.Record.Schema

/-!
# Storing records and locations

Records and the index of locations are stored as packed documents whose maps
have their keys in order, so that equal contents have equal bytes.  Reading
checks every part and tells the first that is wrong.
-/

namespace CrateShelf.Record

open CrateShelf.Pack

/-! ## Writing -/

/-- An entry of a map under a text. -/
def entry (name : String) (value : Value) : Value × Value :=
  (.text name, value)

/-- An entry for a field that may be unwritten. -/
def optional (name : String) (value : Option Value) : List (Value × Value) :=
  match value with
  | some value => [entry name value]
  | none => []

/-- A text that may be missing. -/
def nullable : Option String → Value
  | some content => .text content
  | none => .null

/-- The stored form of a field. -/
def packField (field : FieldData) : Value :=
  .map <|
    [entry "ident" (nullable field.ident)] ++
    optional "summary" (field.summary.map .ofWide) ++
    [entry "type_text" (.text field.typeText),
      entry "visibility" (.text field.visibility.name)]

/-- The stored form of a variant. -/
def packVariant (variant : VariantData) : Value :=
  .map <|
    optional "data_text" (variant.dataText.map .text) ++
    [entry "ident" (.text variant.ident)] ++
    optional "summary" (variant.summary.map .ofWide)

/-- The stored form of a payload. -/
def packPayload : Payload → Value
  | .module data =>
    .map (optional "is_crate_root" (data.isCrateRoot.map .bool))
  | .struct data =>
    .map (entry "fields" (.list (data.fields.map packField)) ::
      optional "tuple_like" (data.tupleLike.map .bool))
  | .field data => packField data
  | .enum data =>
    .map [entry "variants" (.list (data.variants.map packVariant))]
  | .variant data => packVariant data
  | .function data =>
    .map <|
      optional "abi" (data.abi.map fun abi => .text abi.name) ++
      optional "constness"
        (data.constness.map fun constness => .text constness.name) ++
      optional "kind" (data.kind.map fun kind => .text kind.name) ++
      [entry "signature" (.text data.signature)] ++
      optional "unsafety" (data.safety.map fun safety => .text safety.name)
  | .constant data =>
    .map <|
      optional "expr_text" (data.exprText.map nullable) ++
      [entry "type_text" (.text data.typeText)]
  | .trait data =>
    .map (optional "unsafety"
      (data.safety.map fun safety => .text safety.name))
  | .type data => .map (optional "type_text" (data.typeText.map nullable))
  | .macroRules data => .map [entry "text" (.text data.text)]

/-- The stored form of an impl context. -/
def packContext (context : ImplContext) : Value :=
  .map <|
    [entry "target_type_text" (.text context.targetTypeText)] ++
    optional "trait_ref_text" (context.traitRefText.map nullable) ++
    optional "unsafety" (context.safety.map fun safety => .text safety.name)

/-- The stored form of a link. -/
def packLink (link : Link) : Value :=
  .map [entry "name" link.name, entry "path" (.text link.path.toText)]

/-- The links in the order of the names of their kinds. -/
def sortLinks (links : Links) : Links :=
  links.mergeSort fun first second =>
    decide (¬ second.1.name < first.1.name)

/-- The stored form of links. -/
def packLinks (links : Links) : Value :=
  .map ((sortLinks links).map fun (kind, targets) =>
    entry kind.name (.list (targets.map packLink)))

/-- The stored form of a record. -/
def toValue (record : Record) : Value :=
  .map [
    entry "crate" record.crate.name,
    entry "doc_strings" (.list record.docs),
    entry "impl_context"
      (match record.implContext with
        | some context => packContext context
        | none => .null),
    entry "inner" (packPayload record.payload),
    entry "kind" (.text record.kind.name),
    entry "links" (packLinks record.links),
    entry "mod_path" (.text record.path.toText),
    entry "name" record.name,
    entry "version" record.crate.version,
    entry "visibility" (.text record.visibility.name)]

/-- The bytes of a record that can be written. -/
def encode (record : Record) : Bytes :=
  pack record.toValue

/-- The bytes of a record, or why it cannot be written. -/
def encoded (record : Record) : Except WriteError Bytes :=
  match record.toValue.writeError? with
  | some error => .error error
  | none => .ok record.encode

/-- The stored form of a location. -/
def packLocation (location : Location) : Value :=
  .map [
    entry "crate" location.crate.name,
    entry "discriminator" location.discriminator,
    entry "kind" (.text location.kind.name),
    entry "name" location.name,
    entry "path" (.text location.path.toText),
    entry "version" location.crate.version]

/-- The stored form of the index of some locations, which are put in
order. -/
def indexValue (locations : List Location) : Value :=
  .map [
    entry "locations" (.list ((Location.sort locations).map packLocation)),
    entry "schema_version" (.int 1)]

/-- The bytes of the index of some locations. -/
def encodeIndex (locations : List Location) : Bytes :=
  pack (indexValue locations)

/-! ## Reading -/

/-- Why a stored record or location is refused. -/
inductive ContentError where
  | missing (key : String)
  /-- A name that is no kind's, as it is shown. -/
  | unknownKind (shown : String)
  /-- A name that is no visibility's, as it is shown. -/
  | unknownVisibility (shown : String)
  /-- A crate without name or version, as they are shown. -/
  | emptyCrate (name version : String)
  | schema (error : SchemaError)
  /-- A value of a type that cannot be used in its place. -/
  | wrongType
  /-- A value that should be a text or a map and has none of its uses. -/
  | unusable
deriving DecidableEq, Repr

/-- The wording of the error; a value of the wrong type has none. -/
def ContentError.message? : ContentError → Option String
  | missing key => some (quote key)
  | unknownKind shown => some (Kind.unknownMessage shown)
  | unknownVisibility shown => some (shown ++ " is not a valid Visibility")
  | emptyCrate name version =>
    some ("Crate name and version must be non-empty: " ++ name ++ " " ++
      version)
  | schema error => some error.message
  | wrongType | unusable => none

/-- The entries of a map. -/
def entriesOf : Value → Except ContentError (List (Value × Value))
  | .map entries => .ok entries
  | _ => .error .wrongType

/-- The value of a required key. -/
def require (entries : List (Value × Value)) (key : String) :
    Except ContentError Value :=
  match Value.lookup? entries key with
  | some value => .ok value
  | none => .error (.missing key)

/-- A path written as a text. -/
def readPath : Value → Except ContentError ItemPath
  | .text content => .ok (ItemPath.parse content)
  | .bytes _ => .error .wrongType
  | _ => .error .unusable

/-- The kind that a value is the name of. -/
def kindOf? : Value → Option Kind
  | .text content => Kind.ofName? content
  | _ => none

/-- A kind by its name. -/
def readKind (value : Value) : Except ContentError Kind :=
  match kindOf? value with
  | some kind => .ok kind
  | none => .error (.unknownKind value.shown)

/-- A kind by its name as a key. -/
def readKindKey (key : Value) : Except ContentError Kind :=
  match kindOf? key with
  | some kind => .ok kind
  | none => .error (.unknownKind key.shownKey)

/-- A visibility by its name. -/
def readVisibility (value : Value) : Except ContentError Visibility :=
  match value with
  | .text content =>
    match Visibility.ofName? content with
    | some visibility => .ok visibility
    | none => .error (.unknownVisibility value.shown)
  | _ => .error (.unknownVisibility value.shown)

/-- A crate by its name and version. -/
def readCrate (name version : Value) : Except ContentError CrateId :=
  if name.isTruthy && version.isTruthy then .ok ⟨name, version⟩
  else .error (.emptyCrate name.shown version.shown)

/-- The fields of a stored field. -/
def fieldSchema : List FlatField :=
  [⟨"ident", true, .optionalText⟩,
    ⟨"visibility", true, .choice (Visibility.all.map (·.name))⟩,
    ⟨"type_text", true, .text⟩,
    ⟨"summary", false, .text⟩]

/-- The fields of a stored variant. -/
def variantSchema : List FlatField :=
  [⟨"ident", true, .text⟩,
    ⟨"data_text", false, .text⟩,
    ⟨"summary", false, .text⟩]

/-- A field that tells the safety of a declaration. -/
def safetyField : Field :=
  ⟨"unsafety", false, .scalar (.choice (Safety.all.map (·.name)))⟩

/-- The fields of a stored impl context. -/
def contextSchema : List Field :=
  [⟨"target_type_text", true, .scalar .text⟩,
    ⟨"trait_ref_text", false, .scalar .optionalText⟩,
    safetyField]

/-- The fields of an object without objects inside, as those of any
object. -/
def widenFields (fields : List FlatField) : List Field :=
  fields.map fun field =>
    ⟨field.name, field.required, .scalar field.holds⟩

/-- The fields of the payload of a kind. -/
def payloadSchema : Kind → List Field
  | .module => [⟨"is_crate_root", false, .scalar .flag⟩]
  | .struct =>
    [⟨"fields", false, .rows fieldSchema⟩,
      ⟨"tuple_like", false, .scalar .flag⟩]
  | .structField => widenFields fieldSchema
  | .enum => [⟨"variants", false, .rows variantSchema⟩]
  | .variant => widenFields variantSchema
  | .function | .traitItemMethod =>
    [⟨"signature", true, .scalar .text⟩,
      safetyField,
      ⟨"constness", false,
        .scalar (.choice (Constness.all.map (·.name)))⟩,
      ⟨"abi", false, .scalar (.choice (Abi.all.map (·.name)))⟩,
      ⟨"kind", false, .scalar (.choice (FnKind.all.map (·.name)))⟩]
  | .constant | .assocConst | .traitItemConst =>
    [⟨"type_text", true, .scalar .text⟩,
      ⟨"expr_text", false, .scalar .optionalText⟩]
  | .trait => [safetyField]
  | .assocType | .traitItemType =>
    [⟨"type_text", false, .scalar .optionalText⟩]
  | .macroRules | .traitItemMacro => [⟨"text", true, .scalar .text⟩]

/-- The text under a key, if there is one. -/
def textAt? (entries : List (Value × Value)) (key : String) :
    Option String :=
  match Value.lookup? entries key with
  | some (.text content) => some content
  | _ => none

/-- The text or the absence of one under a key, if anything is written. -/
def nullableAt? (entries : List (Value × Value)) (key : String) :
    Option (Option String) :=
  match Value.lookup? entries key with
  | some (.text content) => some (some content)
  | some _ => some none
  | none => none

/-- The flag under a key, if there is one. -/
def flagAt? (entries : List (Value × Value)) (key : String) : Option Bool :=
  match Value.lookup? entries key with
  | some (.bool flag) => some flag
  | _ => none

/-- The rows under a key. -/
def rowsAt (entries : List (Value × Value)) (key : String) :
    List (List (Value × Value)) :=
  match Value.lookup? entries key with
  | some (.list items) =>
    items.map fun item =>
      match item with
      | .map entries => entries
      | _ => []
  | _ => []

/-- The field with checked entries. -/
def fieldOf (entries : List (Value × Value)) : FieldData :=
  { ident := textAt? entries "ident"
    visibility :=
      ((textAt? entries "visibility").bind Visibility.ofName?).getD .inherited
    typeText := (textAt? entries "type_text").getD ""
    summary := (textAt? entries "summary").map .whole }

/-- The variant with checked entries. -/
def variantOf (entries : List (Value × Value)) : VariantData :=
  { ident := (textAt? entries "ident").getD ""
    dataText := textAt? entries "data_text"
    summary := (textAt? entries "summary").map .whole }

/-- The safety with checked entries. -/
def safetyOf? (entries : List (Value × Value)) : Option Safety :=
  (textAt? entries "unsafety").bind Safety.ofName?

/-- The payload of a kind with checked entries. -/
def payloadOf (kind : Kind) (entries : List (Value × Value)) : Payload :=
  match kind with
  | .module => .module ⟨flagAt? entries "is_crate_root"⟩
  | .struct =>
    .struct ⟨(rowsAt entries "fields").map fieldOf,
      flagAt? entries "tuple_like"⟩
  | .structField => .field (fieldOf entries)
  | .enum => .enum ⟨(rowsAt entries "variants").map variantOf⟩
  | .variant => .variant (variantOf entries)
  | .function | .traitItemMethod =>
    .function {
      signature := (textAt? entries "signature").getD ""
      safety := safetyOf? entries
      constness := (textAt? entries "constness").bind Constness.ofName?
      abi := (textAt? entries "abi").bind Abi.ofName?
      kind := (textAt? entries "kind").bind FnKind.ofName? }
  | .constant | .assocConst | .traitItemConst =>
    .constant ⟨(textAt? entries "type_text").getD "",
      nullableAt? entries "expr_text"⟩
  | .trait => .trait ⟨safetyOf? entries⟩
  | .assocType | .traitItemType => .type ⟨nullableAt? entries "type_text"⟩
  | .macroRules | .traitItemMacro =>
    .macroRules ⟨(textAt? entries "text").getD ""⟩

/-- Reads an object with a schema. -/
def readObject (schema : List Field) (value : Value) :
    Except ContentError (List (Value × Value)) :=
  match checkObject schema value, value with
  | .ok (), .map entries => .ok entries
  | .ok (), _ => .error .wrongType
  | .error error, _ => .error (.schema error)

/-- Reads pieces of documentation. -/
def readDocs (value : Value) : Except ContentError (List Label) :=
  match value.elements? with
  | some elements => .ok elements
  | none => .error .wrongType

/-- Reads a link. -/
def readLink (value : Value) : Except ContentError Link := do
  let entries ← entriesOf value
  let name ← require entries "name"
  return ⟨name, ← readPath (← require entries "path")⟩

/-- Reads the links of one kind. -/
def readTargets (value : Value) : Except ContentError (List Link) :=
  match value.elements? with
  | some elements => elements.mapM readLink
  | none => .error .wrongType

/-- Reads links, those already read first. -/
def readLinks : Links → List (Value × Value) → Except ContentError Links
  | known, [] => .ok known
  | known, (key, targets) :: rest => do
    let kind ← readKindKey key
    let links ← readTargets targets
    readLinks (known.set kind links) rest

/-- Reads an impl context; a value that counts as nothing means none. -/
def readContext (value : Option Value) :
    Except ContentError (Option ImplContext) :=
  match value with
  | none => .ok none
  | some value =>
    if value.isTruthy then do
      let entries ← readObject contextSchema value
      return some {
        targetTypeText := (textAt? entries "target_type_text").getD ""
        traitRefText := nullableAt? entries "trait_ref_text"
        safety := safetyOf? entries }
    else .ok none

/-- Reads a record from the entries of its map. -/
def ofEntries (entries : List (Value × Value)) :
    Except ContentError Record := do
  let kind ← readKind (← require entries "kind")
  let name ← require entries "name"
  let crateName ← require entries "crate"
  let crate ← readCrate crateName (← require entries "version")
  let path ← readPath (← require entries "mod_path")
  let visibility ← readVisibility (← require entries "visibility")
  let docs ← readDocs ((Value.lookup? entries "doc_strings").getD (.list []))
  let inner ← readObject (payloadSchema kind) (← require entries "inner")
  let links ←
    match (Value.lookup? entries "links").getD (.map []) with
    | .map links => readLinks [] links
    | _ => .error .unusable
  let implContext ← readContext (Value.lookup? entries "impl_context")
  return {
    name, kind, crate, path, visibility, docs
    payload := payloadOf kind inner
    links, implContext }

/-- Why bytes are not a stored record or index. -/
inductive DecodeError where
  /-- The bytes are no packed document. -/
  | undecodable (error : ReadError)
  | notMap
  /-- The index has another schema version, as it is shown. -/
  | unsupported (shown : String)
  | content (error : ContentError)
deriving DecidableEq, Repr

/-- Reads a record. -/
def decode [Depths] (bytes : Bytes) : Except DecodeError Record :=
  match unpack bytes with
  | .error error => .error (.undecodable error)
  | .ok (.map entries) =>
    match ofEntries entries with
    | .ok record => .ok record
    | .error error => .error (.content error)
  | .ok _ => .error .notMap

/-- Reads a location. -/
def readLocation (value : Value) : Except ContentError Location := do
  let entries ← entriesOf value
  let crateName ← require entries "crate"
  let crate ← readCrate crateName (← require entries "version")
  let path ← readPath (← require entries "path")
  let name ← require entries "name"
  let kind ← readKind (← require entries "kind")
  let discriminator :=
    (Value.lookup? entries "discriminator").getD (.text "")
  return { crate, path, name, kind, discriminator }

/-- Whether a value is the number one. -/
def isOne : Value → Bool
  | .int number => number == 1
  | .bool flag => flag
  | .real bits => bits == (1 : Float).toBits
  | _ => false

/-- Reads an index. -/
def decodeIndex [Depths] (bytes : Bytes) : Except DecodeError (List Location) :=
  match unpack bytes with
  | .error error => .error (.undecodable error)
  | .ok (.map entries) =>
    let version := (Value.lookup? entries "schema_version").getD .null
    if isOne version then
      match ((Value.lookup? entries "locations").getD (.list [])).elements? with
      | none => .error (.content .wrongType)
      | some elements =>
        match elements.mapM readLocation with
        | .ok locations => .ok locations
        | .error error => .error (.content error)
    else .error (.unsupported version.shown)
  | .ok _ => .error .notMap

/-! ## Wording -/

/-- What the wording of an error speaks of. -/
inductive Document where
  | record
  | index
deriving DecidableEq, Repr

/-- The wording of the error; there is none when a value of the wrong type
or a fault of the text encoding is behind it. -/
def DecodeError.message? (document : Document) : DecodeError → Option String
  | undecodable .invalidText | undecodable .tooDeep => none
  | undecodable error =>
    some ("Undecodable " ++
      (match document with
        | .record => "documentation record"
        | .index => "store index") ++ ": " ++ error.message)
  | notMap =>
    some ((match document with
      | .record => "Documentation record"
      | .index => "Store index") ++ " is not a map")
  | unsupported shown =>
    some ("Unsupported store index schema version " ++ shown)
  | content error =>
    error.message?.map fun text =>
      (match document with
        | .record => "Malformed documentation record: "
        | .index => "Malformed store index entry: ") ++ text

end CrateShelf.Record
