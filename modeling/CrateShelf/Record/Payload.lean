import CrateShelf.Kind
import CrateShelf.Record.Attribute
import CrateShelf.Text.Wide

/-!
# Payloads

What a record says beside its name and documentation depends on its kind.
Fields that have a usual value may be left unwritten; a record remembers
whether they were, so that it is stored again as it was read.
-/

namespace CrateShelf

/-- A module. -/
structure ModuleData where
  isCrateRoot : Option Bool
deriving DecidableEq, Repr, Inhabited

/-- A field of a struct; a field of a tuple struct has no name. -/
structure FieldData where
  ident : Option String
  visibility : Visibility
  typeText : String
  summary : Option WideText
deriving DecidableEq, Repr, Inhabited

/-- A struct or a union. -/
structure StructData where
  fields : List FieldData
  tupleLike : Option Bool
deriving DecidableEq, Repr, Inhabited

/-- A variant of an enum. -/
structure VariantData where
  ident : String
  dataText : Option String
  summary : Option WideText
deriving DecidableEq, Repr, Inhabited

/-- An enum. -/
structure EnumData where
  variants : List VariantData
deriving DecidableEq, Repr, Inhabited

/-- A function or method. -/
structure FunctionData where
  signature : String
  safety : Option Safety
  constness : Option Constness
  abi : Option Abi
  kind : Option FnKind
deriving DecidableEq, Repr, Inhabited

/-- A constant; its value may be unwritten or written as missing. -/
structure ConstantData where
  typeText : String
  exprText : Option (Option String)
deriving DecidableEq, Repr, Inhabited

/-- A trait. -/
structure TraitData where
  safety : Option Safety
deriving DecidableEq, Repr, Inhabited

/-- An associated type: its bound in a trait, its definition in an impl. -/
structure TypeData where
  typeText : Option (Option String)
deriving DecidableEq, Repr, Inhabited

/-- A macro. -/
structure MacroData where
  text : String
deriving DecidableEq, Repr, Inhabited

/-- The impl block that an item was declared in. -/
structure ImplContext where
  targetTypeText : String
  traitRefText : Option (Option String)
  safety : Option Safety
deriving DecidableEq, Repr, Inhabited

/-- The part of a record that depends on its kind. -/
inductive Payload where
  | module (data : ModuleData)
  | struct (data : StructData)
  | field (data : FieldData)
  | enum (data : EnumData)
  | variant (data : VariantData)
  | function (data : FunctionData)
  | constant (data : ConstantData)
  | trait (data : TraitData)
  | type (data : TypeData)
  | macroRules (data : MacroData)
deriving DecidableEq, Repr, Inhabited

/-- Whether a payload is of the sort that records of a kind have. -/
def Payload.fits : Payload → Kind → Bool
  | module _, .module => true
  | struct _, .struct => true
  | field _, .structField => true
  | enum _, .enum => true
  | variant _, .variant => true
  | function _, .function | function _, .traitItemMethod => true
  | constant _, .constant | constant _, .assocConst
  | constant _, .traitItemConst => true
  | trait _, .trait => true
  | type _, .assocType | type _, .traitItemType => true
  | macroRules _, .macroRules | macroRules _, .traitItemMacro => true
  | _, _ => false

namespace FunctionData

/-- The signature with the qualifiers that are not already part of it. -/
def declaration (data : FunctionData) : String :=
  let text := data.signature
  if text.startsWith "fn " || text.startsWith "fn(" then
    (if data.constness = some .const then "const " else "") ++
      (if data.safety = some .unchecked then "unsafe " else "") ++
      (match data.abi with
        | none | some .rust => ""
        | some abi => "extern \"" ++ abi.name ++ "\" ") ++ text
  else text

end FunctionData

namespace Payload

/-- The declaration line of an item of a kind with a name and visibility. -/
def signature (payload : Payload) (kind : Kind) (name : String)
    (visibility : Visibility) : String :=
  match kind, payload with
  | .module, module data =>
    if data.isCrateRoot = some true then "crate " ++ name
    else visibility.mark ("mod " ++ name)
  | .module, _ => visibility.mark ("mod " ++ name)
  | .struct, struct data =>
    let fields := data.fields.map fun field =>
      field.visibility.mark field.typeText
    visibility.mark ("struct " ++ name ++
      if data.tupleLike = some true then
        "(" ++ ", ".intercalate fields ++ ")"
      else "")
  | .enum, _ => visibility.mark ("enum " ++ name)
  | .structField, field data =>
    visibility.mark (name ++ ": " ++ data.typeText)
  | .variant, variant data =>
    let text := data.dataText.getD ""
    if text = "" then name
    else if text.startsWith "(" then name ++ text
    else name ++ " " ++ text
  | _, function data => visibility.mark data.declaration
  | _, constant data =>
    let value := (data.exprText.getD none).getD ""
    visibility.mark ("const " ++ name ++ ": " ++ data.typeText ++
      if value = "" then "" else " = " ++ value)
  | .trait, trait data =>
    visibility.mark
      ((if data.safety = some .unchecked then "unsafe " else "") ++
        "trait " ++ name)
  | kind, type data =>
    let text := (data.typeText.getD none).getD ""
    let mark := if kind = .traitItemType then ": " else " = "
    visibility.mark ("type " ++ name ++
      if text = "" then "" else mark ++ text)
  | _, macroRules data => data.text
  | _, _ => name

end Payload

end CrateShelf
