import CrateShelf.Proofs.Record.Form

/-!
# Reading stored payloads

The payload of a record and the impl context it was declared in are stored as
objects.

Main statements: the stored form of a payload fits the schema of every kind
whose records have such payloads, and the payload of that kind which is read
from it is the one that was stored; the same holds of impl contexts.
-/

namespace CrateShelf.Record

open CrateShelf.Pack

/-! ## Forms -/

/-- The fields of a stored field. -/
def fieldForm (field : FieldData) : Form :=
  [("ident", some (nullable field.ident)),
    ("summary", field.summary.map .ofWide),
    ("type_text", some (.text field.typeText)),
    ("visibility", some (.text field.visibility.name))]

/-- The fields of a stored variant. -/
def variantForm (variant : VariantData) : Form :=
  [("data_text", variant.dataText.map .text),
    ("ident", some (.text variant.ident)),
    ("summary", variant.summary.map .ofWide)]

/-- The field that tells a safety. -/
def safetyForm (safety : Option Safety) : Form :=
  [("unsafety", safety.map fun safety => .text safety.name)]

/-- The fields of a stored impl context. -/
def contextForm (context : ImplContext) : Form :=
  [("target_type_text", some (.text context.targetTypeText)),
    ("trait_ref_text", context.traitRefText.map nullable)] ++
    safetyForm context.safety

/-- The fields of a stored payload. -/
def payloadForm : Payload → Form
  | .module data => [("is_crate_root", data.isCrateRoot.map .bool)]
  | .struct data =>
    [("fields", some (.list (data.fields.map packField))),
      ("tuple_like", data.tupleLike.map .bool)]
  | .field data => fieldForm data
  | .enum data =>
    [("variants", some (.list (data.variants.map packVariant)))]
  | .variant data => variantForm data
  | .function data =>
    [("abi", data.abi.map fun abi => .text abi.name),
      ("constness", data.constness.map fun constness => .text constness.name),
      ("kind", data.kind.map fun kind => .text kind.name),
      ("signature", some (.text data.signature))] ++
      safetyForm data.safety
  | .constant data =>
    [("expr_text", data.exprText.map nullable),
      ("type_text", some (.text data.typeText))]
  | .trait data => safetyForm data.safety
  | .type data => [("type_text", data.typeText.map nullable)]
  | .macroRules data => [("text", some (.text data.text))]

theorem packField_eq (field : FieldData) :
    packField field = .map (present (fieldForm field)) := by
  simp [packField, fieldForm, optional]

theorem packVariant_eq (variant : VariantData) :
    packVariant variant = .map (present (variantForm variant)) := by
  simp [packVariant, variantForm, optional]

theorem packContext_eq (context : ImplContext) :
    packContext context = .map (present (contextForm context)) := by
  simp [packContext, contextForm, safetyForm, optional]

theorem packPayload_eq (payload : Payload) :
    packPayload payload = .map (present (payloadForm payload)) := by
  cases payload with
  | field data => exact packField_eq data
  | variant data => exact packVariant_eq data
  | _ =>
      simp [packPayload, payloadForm, safetyForm, optional]

/-! ## Shape -/

/-- A text that may be missing is plain. -/
theorem isPlain_nullable (content : Option String) (depth : Nat) :
    (nullable content).IsPlain (depth + 1) := by
  cases content with
  | none => exact .null
  | some content => exact .text content

theorem isPlain_ofWide (text : WideText) (depth : Nat) :
    (Value.ofWide text).IsPlain (depth + 1) := by
  cases text with
  | whole content => exact .text content
  | torn content => exact .torn content

theorem isPlain_packField (field : FieldData) (depth : Nat) :
    (packField field).IsPlain (depth + 2) := by
  rw [packField_eq]
  apply isPlain_present
  · simp [fieldForm]
  · simp [fieldForm, isPlain_nullable, isPlain_ofWide, Value.IsPlain.text]

theorem isPlain_packVariant (variant : VariantData) (depth : Nat) :
    (packVariant variant).IsPlain (depth + 2) := by
  rw [packVariant_eq]
  apply isPlain_present
  · simp [variantForm]
  · simp [variantForm, isPlain_ofWide, Value.IsPlain.text]

theorem isPlain_packContext (context : ImplContext) (depth : Nat) :
    (packContext context).IsPlain (depth + 2) := by
  rw [packContext_eq]
  apply isPlain_present
  · simp [contextForm, safetyForm]
  · simp [contextForm, safetyForm, isPlain_nullable, Value.IsPlain.text]

/-- Stored payloads are plain; those with rows are the deepest. -/
theorem isPlain_packPayload (payload : Payload) (depth : Nat) :
    (packPayload payload).IsPlain (depth + 4) := by
  rw [packPayload_eq]
  apply isPlain_present
  · cases payload <;>
      simp [payloadForm, fieldForm, variantForm, safetyForm]
  · cases payload with
    | struct data =>
        have rows :
            (Value.list (data.fields.map packField)).IsPlain
              (depth + 3) := by
          apply Value.IsPlain.list
          intro row member
          obtain ⟨field, _, rfl⟩ := List.mem_map.1 member
          exact isPlain_packField field depth
        simp [payloadForm, rows, Value.IsPlain.bool]
    | enum data =>
        have rows :
            (Value.list (data.variants.map packVariant)).IsPlain
              (depth + 3) := by
          apply Value.IsPlain.list
          intro row member
          obtain ⟨variant, _, rfl⟩ := List.mem_map.1 member
          exact isPlain_packVariant variant depth
        simp [payloadForm, rows]
    | _ =>
        simp [payloadForm, fieldForm, variantForm, safetyForm,
          isPlain_nullable, isPlain_ofWide, Value.IsPlain.text,
          Value.IsPlain.bool]

/-! ## Size -/

/-- What fits of a text that may be torn is not. -/
theorem exists_whole_of_fits
    {text : Option WideText}
    {name : String}
    {form : Form}
    (member : (name, text.map .ofWide) ∈ form)
    (fits : (Value.map (present form)).fits = true) :
    ∃ content : Option String, text = content.map .whole := by
  rcases text with _ | content | content
  · exact ⟨none, rfl⟩
  · exact ⟨some content, rfl⟩
  · cases every_fits_of_fits_present fits _ member _ rfl

/-- A field that fits has no torn summary. -/
theorem exists_whole_of_fits_packField
    {field : FieldData}
    (fits : (packField field).fits = true) :
    ∃ content : Option String, field.summary = content.map .whole := by
  have member :
      ("summary", field.summary.map .ofWide) ∈ fieldForm field := by
    simp [fieldForm]
  rw [packField_eq] at fits
  exact exists_whole_of_fits member fits

/-- A variant that fits has no torn summary. -/
theorem exists_whole_of_fits_packVariant
    {variant : VariantData}
    (fits : (packVariant variant).fits = true) :
    ∃ content : Option String, variant.summary = content.map .whole := by
  have member :
      ("summary", variant.summary.map .ofWide) ∈ variantForm variant := by
    simp [variantForm]
  rw [packVariant_eq] at fits
  exact exists_whole_of_fits member fits

/-- The rows of an object that fits do. -/
theorem fits_of_mem_rows
    {Row : Type}
    {write : Row → Value}
    {rows : List Row}
    {name : String}
    {form : Form}
    (member : (name, some (.list (rows.map write))) ∈ form)
    (fits : (Value.map (present form)).fits = true) :
    ∀ row ∈ rows, (write row).fits = true := by
  have listed := every_fits_of_fits_present fits _ member _ rfl
  simp only [Value.fits, Bool.and_eq_true, Value.allFit_iff,
    List.forall_mem_map] at listed
  exact listed.2

theorem fits_packField_of_fits
    {data : StructData}
    (fits : (packPayload (.struct data)).fits = true) :
    ∀ field ∈ data.fields, (packField field).fits = true := by
  rw [packPayload_eq] at fits
  exact fits_of_mem_rows List.mem_cons_self fits

theorem fits_packVariant_of_fits
    {data : EnumData}
    (fits : (packPayload (.enum data)).fits = true) :
    ∀ variant ∈ data.variants, (packVariant variant).fits = true := by
  rw [packPayload_eq] at fits
  exact fits_of_mem_rows List.mem_cons_self fits

/-! ## Checks -/

@[simp]
theorem check_scalar (scalar : Scalar) (place : String) (value : Value) :
    (Holds.scalar scalar).check place value = scalar.check place value := rfl

@[simp]
theorem check_text (place content : String) :
    Scalar.text.check place (.text content) = .ok () := rfl

@[simp]
theorem check_flag (place : String) (flag : Bool) :
    Scalar.flag.check place (.bool flag) = .ok () := rfl

@[simp]
theorem check_nullable (content : Option String) (place : String) :
    Scalar.optionalText.check place (nullable content) = .ok () := by
  cases content <;> rfl

/-- A text passes as a choice of names if it is one of them. -/
theorem check_choice
    {names : List String}
    {name : String}
    (member : name ∈ names)
    (place : String) :
    (Scalar.choice names).check place (.text name) = .ok () := by
  simp [Scalar.check, member]

theorem check_visibility (visibility : Visibility) (place : String) :
    (Scalar.choice (Visibility.all.map (·.name))).check place
        (.text visibility.name) = .ok () := by
  apply check_choice
  cases visibility <;> decide

theorem check_safety (safety : Safety) (place : String) :
    (Scalar.choice (Safety.all.map (·.name))).check place
        (.text safety.name) = .ok () := by
  apply check_choice
  cases safety <;> decide

theorem check_constness (constness : Constness) (place : String) :
    (Scalar.choice (Constness.all.map (·.name))).check place
        (.text constness.name) = .ok () := by
  apply check_choice
  cases constness <;> decide

theorem check_abi (abi : Abi) (place : String) :
    (Scalar.choice (Abi.all.map (·.name))).check place
        (.text abi.name) = .ok () := by
  apply check_choice
  cases abi <;> decide

theorem check_fnKind (kind : FnKind) (place : String) :
    (Scalar.choice (FnKind.all.map (·.name))).check place
        (.text kind.name) = .ok () := by
  apply check_choice
  cases kind <;> decide

theorem checkFlat_packField
    {field : FieldData}
    (fits : (packField field).fits = true)
    (place : String) :
    checkFlat fieldSchema place (packField field) = .ok () := by
  obtain ⟨summary, whole⟩ := exists_whole_of_fits_packField fits
  rw [packField_eq]
  apply checkFlat_present
  · simp [fieldForm, fieldSchema, check_visibility, whole, Value.ofWide]
  · simp [fieldForm, fieldSchema]

theorem checkFlat_packVariant
    {variant : VariantData}
    (fits : (packVariant variant).fits = true)
    (place : String) :
    checkFlat variantSchema place (packVariant variant) = .ok () := by
  obtain ⟨summary, whole⟩ := exists_whole_of_fits_packVariant fits
  rw [packVariant_eq]
  apply checkFlat_present
  · simp [variantForm, variantSchema, whole, Value.ofWide]
  · simp [variantForm, variantSchema]

/-- Rows that each fit fit together. -/
theorem checkRows_map
    {Row : Type}
    {write : Row → Value}
    {fields : List FlatField}
    {rows : List Row}
    (each : ∀ row ∈ rows, ∀ place,
      checkFlat fields place (write row) = .ok ())
    (place : String)
    (index : Nat) :
    checkRows fields place index (rows.map write) = .ok () := by
  induction rows generalizing index with
  | nil => rfl
  | cons row rows inductionStep =>
      rw [List.forall_mem_cons] at each
      simp only [List.map_cons, checkRows, each.1, ok_bind]
      exact inductionStep each.2 (index + 1)

theorem checkObject_packContext (context : ImplContext) :
    checkObject contextSchema (packContext context) = .ok () := by
  rw [packContext_eq]
  apply checkObject_present
  · simp [contextForm, safetyForm, contextSchema, safetyField,
      check_safety]
  · simp [contextForm, safetyForm, contextSchema, safetyField]

/-- One of the kinds whose records have a payload. -/
def usualKind : Payload → Kind
  | .module _ => .module
  | .struct _ => .struct
  | .field _ => .structField
  | .enum _ => .enum
  | .variant _ => .variant
  | .function _ => .function
  | .constant _ => .constant
  | .trait _ => .trait
  | .type _ => .assocType
  | .macroRules _ => .macroRules

/-- Kinds that share a sort of payload are read in the same way. -/
theorem payload_of_fits
    {payload : Payload}
    {kind : Kind}
    (fitting : payload.fits kind = true) :
    payloadSchema kind = payloadSchema (usualKind payload) ∧
      ∀ entries, payloadOf kind entries =
        payloadOf (usualKind payload) entries := by
  cases payload <;> cases kind <;>
    first
    | exact ⟨rfl, fun _ => rfl⟩
    | cases fitting

/-- A stored payload fits the schema of the kinds whose records have it. -/
theorem checkObject_packPayload
    (payload : Payload)
    (kind : Kind)
    (fitting : payload.fits kind = true)
    (fits : (packPayload payload).fits = true) :
    checkObject (payloadSchema kind) (packPayload payload) = .ok () := by
  rw [(payload_of_fits fitting).1, packPayload_eq]
  apply checkObject_present
  · cases payload with
    | struct data =>
        have each := fits_packField_of_fits fits
        have rows :=
          checkRows_map
            (fun field member => checkFlat_packField (each field member))
            "$.fields" 0
        simp [usualKind, payloadForm, payloadSchema, Holds.check, rows]
    | enum data =>
        have each := fits_packVariant_of_fits fits
        have rows :=
          checkRows_map
            (fun variant member =>
              checkFlat_packVariant (each variant member))
            "$.variants" 0
        simp [usualKind, payloadForm, payloadSchema, Holds.check, rows]
    | field data =>
        obtain ⟨summary, whole⟩ := exists_whole_of_fits_packField fits
        simp [usualKind, payloadForm, payloadSchema, fieldForm, fieldSchema,
          widenFields, check_visibility, whole, Value.ofWide]
    | variant data =>
        obtain ⟨summary, whole⟩ := exists_whole_of_fits_packVariant fits
        simp [usualKind, payloadForm, payloadSchema, variantForm,
          variantSchema, widenFields, whole, Value.ofWide]
    | _ =>
        simp [usualKind, payloadForm, payloadSchema, safetyForm,
          safetyField, check_safety, check_constness, check_abi,
          check_fnKind]
  · cases payload <;>
      simp [usualKind, payloadForm, payloadSchema, fieldForm, variantForm,
        safetyForm, fieldSchema, variantSchema, safetyField, widenFields]

/-! ## Reading -/

theorem fieldOf_present
    {field : FieldData}
    (fits : (packField field).fits = true) :
    fieldOf (present (fieldForm field)) = field := by
  obtain ⟨content, whole⟩ := exists_whole_of_fits_packField fits
  obtain ⟨ident, visibility, typeText, summary⟩ := field
  subst whole
  cases ident <;> cases content <;>
    simp [fieldOf, fieldForm, textAt?, nullable, Value.ofWide]

theorem variantOf_present
    {variant : VariantData}
    (fits : (packVariant variant).fits = true) :
    variantOf (present (variantForm variant)) = variant := by
  obtain ⟨content, whole⟩ := exists_whole_of_fits_packVariant fits
  obtain ⟨ident, dataText, summary⟩ := variant
  subst whole
  cases dataText <;> cases content <;>
    simp [variantOf, variantForm, textAt?, Value.ofWide]

/-- Rows are read back one by one. -/
theorem rowsAt_map_present
    {Row : Type}
    {write : Row → Value}
    {form : Row → Form}
    {read : List (Value × Value) → Row}
    {rows : List Row}
    {entries : List (Value × Value)}
    {name : String}
    (found :
      Value.lookup? entries name = some (.list (rows.map write)))
    (written : ∀ row, write row = .map (present (form row)))
    (each : ∀ row ∈ rows, read (present (form row)) = row) :
    (rowsAt entries name).map read = rows := by
  simp only [rowsAt, found, written, List.map_map, Function.comp_def]
  rw [List.map_congr_left each, List.map_id']

/-- The payload that is read for a kind is the one that was stored. -/
theorem payloadOf_present
    (payload : Payload)
    (kind : Kind)
    (fitting : payload.fits kind = true)
    (fits : (packPayload payload).fits = true) :
    payloadOf kind (present (payloadForm payload)) = payload := by
  rw [(payload_of_fits fitting).2]
  cases payload with
  | module data =>
      obtain ⟨isCrateRoot⟩ := data
      cases isCrateRoot <;>
        simp [usualKind, payloadOf, payloadForm, flagAt?]
  | struct data =>
      have each := fits_packField_of_fits fits
      have rows :
          (rowsAt (present (payloadForm (.struct data))) "fields").map
            fieldOf = data.fields :=
        rowsAt_map_present (by simp [payloadForm]) packField_eq
          fun field member => fieldOf_present (each field member)
      obtain ⟨fields, tupleLike⟩ := data
      simp only [usualKind, payloadOf, rows]
      cases tupleLike <;> simp [payloadForm, flagAt?]
  | field data =>
      simp [usualKind, payloadOf, payloadForm, fieldOf_present fits]
  | enum data =>
      have each := fits_packVariant_of_fits fits
      have rows :
          (rowsAt (present (payloadForm (.enum data))) "variants").map
            variantOf = data.variants :=
        rowsAt_map_present (by simp [payloadForm]) packVariant_eq
          fun variant member => variantOf_present (each variant member)
      simp only [usualKind, payloadOf, rows]
  | variant data =>
      simp [usualKind, payloadOf, payloadForm, variantOf_present fits]
  | function data =>
      obtain ⟨signature, safety, constness, abi, kind⟩ := data
      cases safety <;> cases constness <;> cases abi <;> cases kind <;>
        simp [usualKind, payloadOf, payloadForm, safetyForm, safetyOf?,
          textAt?]
  | constant data =>
      obtain ⟨typeText, exprText⟩ := data
      rcases exprText with _ | _ | expr <;>
        simp [usualKind, payloadOf, payloadForm, textAt?, nullableAt?,
          nullable]
  | trait data =>
      obtain ⟨safety⟩ := data
      cases safety <;>
        simp [usualKind, payloadOf, payloadForm, safetyForm, safetyOf?,
          textAt?]
  | type data =>
      obtain ⟨typeText⟩ := data
      rcases typeText with _ | _ | text <;>
        simp [usualKind, payloadOf, payloadForm, nullableAt?, nullable]
  | macroRules data =>
      simp [usualKind, payloadOf, payloadForm, textAt?]

/-- The impl context that is read is the one that was stored. -/
theorem readContext_packContext (context : ImplContext) :
    readContext (some (packContext context)) = .ok (some context) := by
  obtain ⟨targetTypeText, traitRefText, safety⟩ := context
  have checked :=
    checkObject_packContext ⟨targetTypeText, traitRefText, safety⟩
  have something :
      (packContext ⟨targetTypeText, traitRefText, safety⟩).isTruthy =
        true := by
    simp [packContext, Value.isTruthy]
  have read :
      readObject contextSchema
          (packContext ⟨targetTypeText, traitRefText, safety⟩) =
        .ok (present (contextForm ⟨targetTypeText, traitRefText, safety⟩)) := by
    rw [packContext_eq] at checked ⊢
    simp only [readObject, checked]
  simp only [readContext, something, if_true, read, ok_bind, pure_eq_ok]
  rcases traitRefText with _ | _ | text <;> cases safety <;>
    simp [contextForm, safetyForm, textAt?, nullableAt?, safetyOf?,
      nullable]

end CrateShelf.Record
