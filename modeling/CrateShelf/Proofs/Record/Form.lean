import CrateShelf.Proofs.Pack.RoundTrip
import CrateShelf.Record.Codec

/-!
# The form of stored objects

An object is stored as the fields that are written, each under its name.  From
the list of its fields it can be told what is found under a name, whether the
object fits a schema and whether it is a plain value.
-/

namespace CrateShelf.Record

open CrateShelf.Pack

/-- The fields of an object: names, and values where they are written. -/
abbrev Form := List (String × Option Value)

/-- The entries of the fields that are written. -/
def present (form : Form) : List (Value × Value) :=
  form.flatMap fun field => optional field.1 field.2

@[simp]
theorem present_nil : present [] = [] := rfl

@[simp]
theorem present_cons (name : String) (value? : Option Value) (form : Form) :
    present ((name, value?) :: form) =
      optional name value? ++ present form := rfl

theorem mem_optional
    {name : String}
    {value? : Option Value}
    {found : Value × Value} :
    found ∈ optional name value? ↔
      ∃ value, value? = some value ∧ found = entry name value := by
  cases value? with
  | none => simp [optional]
  | some value => simp [optional]

/-- Whether something holds of every field that is written. -/
def Every (form : Form) (Holds : String → Value → Prop) : Prop :=
  ∀ field ∈ form, ∀ value, field.2 = some value → Holds field.1 value

@[simp]
theorem every_nil (Holds : String → Value → Prop) : Every [] Holds := by
  simp [Every]

@[simp]
theorem every_written
    (name : String)
    (value : Value)
    (form : Form)
    (Holds : String → Value → Prop) :
    Every ((name, some value) :: form) Holds ↔
      Holds name value ∧ Every form Holds := by
  simp [Every]

/-- A field that may be unwritten counts only where it is written. -/
@[simp]
theorem every_map
    {Content : Type}
    (name : String)
    (write : Content → Value)
    (content : Option Content)
    (form : Form)
    (Holds : String → Value → Prop) :
    Every ((name, content.map write) :: form) Holds ↔
      (∀ known, content = some known → Holds name (write known)) ∧
        Every form Holds := by
  cases content with
  | none => simp [Every]
  | some known => simp [Every]

/-- Something holds of all entries exactly when it holds of the fields that
are written. -/
theorem forall_mem_present
    {form : Form}
    {Holds : Value × Value → Prop} :
    (∀ found ∈ present form, Holds found) ↔
      Every form fun name value => Holds (entry name value) := by
  simp only [present, List.mem_flatMap, mem_optional]
  constructor
  · intro all field member value written
    exact all _ ⟨field, member, value, written, rfl⟩
  · rintro all found ⟨field, member, value, written, rfl⟩
    exact all field member value written

/-! ## What is found -/

@[simp]
theorem lookup?_nil (key : String) : Value.lookup? [] key = none := rfl

@[simp]
theorem lookup?_entry_cons
    (name key : String)
    (value : Value)
    (entries : List (Value × Value)) :
    Value.lookup? (entry name value :: entries) key =
      if name = key then some value else Value.lookup? entries key := by
  by_cases same : name = key
  · simp [Value.lookup?, entry, same]
  · simp [Value.lookup?, entry, same]

@[simp]
theorem lookup?_optional_append
    (name key : String)
    (value? : Option Value)
    (entries : List (Value × Value)) :
    Value.lookup? (optional name value? ++ entries) key =
      if name = key then value?.or (Value.lookup? entries key)
      else Value.lookup? entries key := by
  cases value? with
  | none => simp [optional]
  | some value => simp [optional]

@[simp]
theorem lookup?_optional (name key : String) (value? : Option Value) :
    Value.lookup? (optional name value?) key =
      if name = key then value? else none := by
  simpa using lookup?_optional_append name key value? []

/-! ## Schemas -/

/-- Nothing is missing if the required fields are found. -/
theorem forM_required_eq_ok
    {Spec : Type}
    {fields : List Spec}
    {entries : List (Value × Value)}
    {required : Spec → Bool}
    {name : Spec → String}
    (complaint : Spec → SchemaError)
    (complete : ∀ field ∈ fields, required field = true →
      (Value.lookup? entries (name field)).isSome = true) :
    fields.forM
        (fun field =>
          if required field &&
              (Value.lookup? entries (name field)).isNone then
            Except.error (complaint field)
          else Except.ok ()) =
      Except.ok () := by
  rw [forM_eq_ok_iff]
  intro field member
  by_cases needed : required field = true
  · have found := complete field member needed
    simp [Option.isSome_iff_ne_none.1 found]
  · simp [needed]

/-- An object fits a schema if its written fields do and the required ones
are written. -/
theorem checkObject_present
    {fields : List Field}
    {form : Form}
    (fitting : Every form fun name value =>
      ∀ known : Field, fields.find? (·.name == name) = some known →
        known.holds.check ("$." ++ name) value = .ok ())
    (complete : ∀ field ∈ fields, field.required = true →
      (Value.lookup? (present form) field.name).isSome = true) :
    checkObject fields (.map (present form)) = .ok () := by
  have requiredPass :=
    forM_required_eq_ok
      (fun field => missingError "$" field.name) complete
  simp only [checkObject]
  rw [bind_eq_ok_iff]
  refine ⟨(), ?_, requiredPass⟩
  rw [forM_eq_ok_iff, forall_mem_present]
  intro field member value written
  simp only [entry]
  split
  · rename_i known found
    exact fitting field member value written known found
  · rfl

/-- An object without objects inside fits a schema if its written fields do
and the required ones are written. -/
theorem checkFlat_present
    {fields : List FlatField}
    {form : Form}
    (place : String)
    (fitting : Every form fun name value =>
      ∀ known : FlatField, fields.find? (·.name == name) = some known →
        known.holds.check (place ++ "." ++ name) value = .ok ())
    (complete : ∀ field ∈ fields, field.required = true →
      (Value.lookup? (present form) field.name).isSome = true) :
    checkFlat fields place (.map (present form)) = .ok () := by
  have requiredPass :=
    forM_required_eq_ok
      (fun field => missingError place field.name) complete
  simp only [checkFlat]
  rw [bind_eq_ok_iff]
  refine ⟨(), ?_, requiredPass⟩
  rw [forM_eq_ok_iff, forall_mem_present]
  intro field member value written
  simp only [entry]
  split
  · rename_i known found
    exact fitting field member value written known found
  · rfl

/-! ## Size -/

/-- The written values of an object that fits do. -/
theorem every_fits_of_fits_present
    {form : Form}
    (fits : (Value.map (present form)).fits = true) :
    Every form fun _ value => value.fits = true := by
  simp only [Value.fits, Bool.and_eq_true, Value.entriesFit_iff,
    forall_mem_present] at fits
  intro field member value written
  exact (fits.2 field member value written).2

/-! ## Shape -/

/-- The names of the written fields, in order. -/
theorem keys_present_sublist (form : Form) :
    ((present form).map Prod.fst).Sublist
      ((form.map Prod.fst).map Value.text) := by
  induction form with
  | nil => simp
  | cons field form inductionStep =>
      obtain ⟨name, value?⟩ := field
      cases value? with
      | none => simpa [optional] using inductionStep.cons _
      | some value => simpa [optional, entry] using inductionStep

/-- An object with different names of its fields is plain if the written
values are. -/
theorem isPlain_present
    {form : Form}
    {depth : Nat}
    (apart : (form.map Prod.fst).Nodup)
    (each : Every form fun _ value => value.IsPlain depth) :
    (Value.map (present form)).IsPlain (depth + 1) := by
  apply Value.IsPlain.map
  · rw [forall_mem_present]
    intro field _ _ _
    exact ⟨field.1, rfl⟩
  · apply (keys_present_sublist form).nodup
    apply apart.map
    intro first second equal
    exact Value.text.inj equal
  · rw [forall_mem_present]
    exact each

end CrateShelf.Record
