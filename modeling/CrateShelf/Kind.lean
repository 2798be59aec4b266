import CrateShelf.Text.Quoted

/-!
# Kinds of documented items

A kind says what a record documents; a link from one record to others is
filed under the kind of its targets.
-/

namespace CrateShelf

/-- What a record documents. -/
inductive Kind where
  | function
  | module
  | enum
  | variant
  | struct
  | structField
  | constant
  | trait
  | assocConst
  | traitItemConst
  | traitItemMethod
  | traitItemType
  | traitItemMacro
  | assocType
  | macroRules
deriving DecidableEq, Repr, Inhabited, Hashable

namespace Kind

/-- Every kind, in its fixed order. -/
def all : List Kind :=
  [function, module, enum, variant, struct, structField, constant, trait,
    assocConst, traitItemConst, traitItemMethod, traitItemType,
    traitItemMacro, assocType, macroRules]

/-- The stored name of a kind. -/
def name : Kind → String
  | function => "Function"
  | module => "Module"
  | enum => "Enum"
  | variant => "Variant"
  | struct => "Struct"
  | structField => "StructField"
  | constant => "Constant"
  | trait => "Trait"
  | assocConst => "AssocConst"
  | traitItemConst => "TraitItemConst"
  | traitItemMethod => "TraitItemMethod"
  | traitItemType => "TraitItemType"
  | traitItemMacro => "TraitItemMacro"
  | assocType => "AssocType"
  | macroRules => "Macro"

/-- The kind with a stored name. -/
def ofName? (text : String) : Option Kind :=
  all.find? (·.name == text)

/-- How the file name of a record of the kind begins. -/
def fileMark : Kind → String
  | function => ""
  | module => "mdesc-"
  | enum => "edesc-"
  | variant => "vdesc-"
  | struct => "sdesc-"
  | structField => "sfdesc-"
  | constant => "cdesc-"
  | trait => "tdesc-"
  | assocConst => "acdesc-"
  | traitItemConst => "tcdesc-"
  | traitItemMethod => "tmcdesc-"
  | traitItemType => "ttcdesc-"
  | traitItemMacro => "tmdesc-"
  | assocType => "atdesc-"
  | macroRules => "macdesc-"

/-- The heading above a list of links to items of the kind. -/
def label : Kind → String
  | function => "Functions"
  | module => "Modules"
  | enum => "Enums"
  | variant => "Variants"
  | struct => "Structs"
  | structField => "Struct Fields"
  | constant => "Constants"
  | trait => "Traits"
  | assocConst | traitItemConst => "Associated Constants"
  | traitItemMethod => "Trait Methods"
  | assocType | traitItemType => "Associated Types"
  | macroRules | traitItemMacro => "Macros"

/-- The title of a page about an item of the kind. -/
def title : Kind → String
  | structField => "Struct Field"
  | assocConst => "Assoc Const"
  | traitItemConst => "Trait Item Const"
  | traitItemMethod => "Trait Item Method"
  | traitItemType => "Trait Item Type"
  | traitItemMacro => "Trait Item Macro"
  | assocType => "Assoc Type"
  | kind => kind.name

/-- The kinds of links usually found on a record, in display order. -/
def linkCategories : Kind → List Kind
  | module => [function, module, enum, struct, trait, constant, macroRules]
  | trait =>
    [traitItemConst, traitItemMethod, traitItemType, traitItemMacro,
      function]
  | struct => [structField, function, assocConst, assocType, macroRules]
  | enum => [variant, function, assocConst, assocType, macroRules]
  | _ => []

/-- Whether a kind is that of an item declared in a trait. -/
def isTraitItem : Kind → Bool
  | traitItemConst | traitItemMethod | traitItemType | traitItemMacro => true
  | _ => false

/-- The wording of the complaint about a name that is no kind's; the name
is given in its quoted form. -/
def unknownMessage (shown : String) : String :=
  shown ++ " is not a valid DocKind"

@[simp]
theorem mem_all (kind : Kind) : kind ∈ all := by
  cases kind <;> decide

/-- A kind is found by its name. -/
@[simp]
theorem ofName?_name (kind : Kind) : ofName? kind.name = some kind := by
  cases kind <;> decide

/-- Only the name of a kind finds it. -/
theorem name_of_ofName? (text : String) (kind : Kind)
    (found : ofName? text = some kind) : kind.name = text := by
  have same := List.find?_some found
  simpa using same

theorem name_injective (first second : Kind)
    (same : first.name = second.name) : first = second := by
  have lifted := congrArg ofName? same
  simpa using lifted

end Kind

end CrateShelf
