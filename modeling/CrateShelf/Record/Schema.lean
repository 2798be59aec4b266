import CrateShelf.Pack.Value

/-!
# Schemas of stored objects

A schema lists the fields of an object: their names, whether they are
required, and what they may hold.  Checking a value goes through the entries
in the order in which they are stored and then looks for required fields
that are missing; fields that the schema does not know are ignored.
-/

namespace CrateShelf.Record

open CrateShelf.Pack

/-- What a field may hold, objects of a list apart. -/
inductive Scalar where
  | text
  | optionalText
  | flag
  | choice (names : List String)
deriving Repr

/-- A field of an object without objects inside. -/
structure FlatField where
  name : String
  required : Bool
  holds : Scalar
deriving Repr

/-- What a field may hold. -/
inductive Holds where
  | scalar (scalar : Scalar)
  | rows (fields : List FlatField)
deriving Repr

/-- A field of an object. -/
structure Field where
  name : String
  required : Bool
  holds : Holds
deriving Repr

/-- A value that does not fit its schema: what is wrong, and where. -/
structure SchemaError where
  reason : String
  place : String
deriving DecidableEq, Repr

/-- The wording of the error; the place is told unless it is the root. -/
def SchemaError.message (error : SchemaError) : String :=
  if error.place = "$" then error.reason
  else error.reason ++ " - at `" ++ error.place ++ "`"

/-- A value of the wrong type. -/
def unexpected (place expected : String) (value : Value) : SchemaError :=
  ⟨"Expected `" ++ expected ++ "`, got `" ++ value.typeName ++ "`", place⟩

/-- Checks a value against what a field may hold. -/
def Scalar.check (scalar : Scalar) (place : String) (value : Value) :
    Except SchemaError Unit :=
  match scalar, value with
  | text, .text _ => .ok ()
  | text, _ => .error (unexpected place "str" value)
  | optionalText, .text _ | optionalText, .null => .ok ()
  | optionalText, _ => .error (unexpected place "str | null" value)
  | flag, .bool _ => .ok ()
  | flag, _ => .error (unexpected place "bool" value)
  | choice names, .text content =>
    if content ∈ names then .ok ()
    else .error ⟨"Invalid enum value " ++ quote content, place⟩
  | choice _, _ => .error (unexpected place "str" value)

/-- The complaint about a key that is no text. -/
def keyError (place : String) : SchemaError :=
  ⟨"Expected `str`", "key` in `" ++ place⟩

/-- The complaint about a required field that is missing. -/
def missingError (place name : String) : SchemaError :=
  ⟨"Object missing required field `" ++ name ++ "`", place⟩

/-- Checks an object without objects inside. -/
def checkFlat (fields : List FlatField) (place : String) (value : Value) :
    Except SchemaError Unit :=
  match value with
  | .map entries => do
    entries.forM fun (key, content) =>
      match key with
      | .text name =>
        match fields.find? (·.name == name) with
        | some field => field.holds.check (place ++ "." ++ name) content
        | none => .ok ()
      | _ => .error (keyError place)
    fields.forM fun field =>
      if field.required && (Value.lookup? entries field.name).isNone then
        .error (missingError place field.name)
      else .ok ()
  | _ => .error (unexpected place "object" value)

/-- Checks the rows of a list from a number on. -/
def checkRows (fields : List FlatField) (place : String) :
    Nat → List Value → Except SchemaError Unit
  | _, [] => .ok ()
  | index, row :: rows => do
    checkFlat fields (place ++ s!"[{index}]") row
    checkRows fields place (index + 1) rows

/-- Checks a value against what a field may hold. -/
def Holds.check (holds : Holds) (place : String) (value : Value) :
    Except SchemaError Unit :=
  match holds with
  | scalar content => content.check place value
  | rows fields =>
    match value with
    | .list items => checkRows fields place 0 items
    | _ => .error (unexpected place "array" value)

/-- Checks an object. -/
def checkObject (fields : List Field) (value : Value) :
    Except SchemaError Unit :=
  match value with
  | .map entries => do
    entries.forM fun (key, content) =>
      match key with
      | .text name =>
        match fields.find? (·.name == name) with
        | some field => field.holds.check ("$." ++ name) content
        | none => .ok ()
      | _ => .error (keyError "$")
    fields.forM fun field =>
      if field.required && (Value.lookup? entries field.name).isNone then
        .error (missingError "$" field.name)
      else .ok ()
  | _ => .error (unexpected "$" "object" value)

end CrateShelf.Record
