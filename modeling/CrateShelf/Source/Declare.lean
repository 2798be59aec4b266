import CrateShelf.Source.Branch
import CrateShelf.Source.Declaration

/-!
# The declarations of a visible tree

Turns the visible tree of a file into declarations.  What is in a declaration
is found by the names of its fields and by the kinds of its children; texts
are taken from the file, with one space for each stretch of blanks.
-/

namespace CrateShelf.Source

namespace Branch

variable (text : SourceText)

/-! ## Texts -/

/-- The characters of a branch. -/
def chars (branch : Branch) : List Char :=
  text.slice branch.info.start branch.info.stop

/-- The text of a branch as it is written. -/
def written (branch : Branch) : String := String.ofList (branch.chars text)

/-- The text of a branch with one space for each stretch of blanks. -/
def collapsed (branch : Branch) : String :=
  String.ofList (Text.collapse (branch.chars text))

/-- The text of a field, with one space for each stretch of blanks. -/
def fieldText (branch : Branch) (name : String) : String :=
  ((branch.field? name).map (·.collapsed text)).getD ""

/-- The name of what is declared. -/
def name? (branch : Branch) : Option String :=
  (branch.field? "name").map (·.written text)

/-- The visibility of what is declared. -/
def visibility (branch : Branch) : Visibility :=
  Visibility.ofModifier
    ((branch.child? "visibility_modifier").map (·.collapsed text))

/-! ## Comments and attributes -/

/-- The comment or attribute that a branch is. -/
def note? (branch : Branch) : Option Docs.Note :=
  match branch.kind with
  | "line_comment" => some (.lineComment (branch.chars text))
  | "block_comment" => some (.blockComment (branch.chars text))
  | "attribute_item" => some (.attribute .outer (branch.chars text))
  | "inner_attribute_item" => some (.attribute .inner (branch.chars text))
  | _ => none

/-- Whether a branch is a comment. -/
def isComment (branch : Branch) : Bool :=
  branch.kind = "line_comment" || branch.kind = "block_comment"

/-- A comment or attribute in front of a part of a declaration. -/
def outerNote? (branch : Branch) : Option Docs.Note :=
  if branch.kind = "inner_attribute_item" then none else branch.note? text

/-! ## Imports -/

/-- The kinds of names that paths are made of. -/
def nameKinds : List String :=
  ["identifier", "crate", "self", "super", "metavariable", "type_identifier"]

/-- The names of a text that is no plain path. -/
def namesIn (text : List Char) : List String :=
  ((Text.splitAtPair ':' (Text.squeeze text)).filter
    (!·.isEmpty)).map String.ofList

mutual

/-- The names of a path; a leading `::` is a name of its own. -/
def pathNames : Branch → List String
  | node info children =>
    let branch := node info children
    if nameKinds.contains info.kind then [branch.written text]
    else if info.kind = "scoped_identifier" then
      outerNames children ++ (branch.name? text).toList
    else namesIn (branch.chars text)

/-- The names of the path in front of the last name of a path. -/
def outerNames : List Branch → List String
  | [] => ["::"]
  | child :: rest =>
    if child.info.fields.contains "path" then pathNames child
    else outerNames rest

end

/-- The names of the path in front of a group. -/
def groupNames (branch : Branch) : List String :=
  ((branch.field? "path").map (·.pathNames text)).getD ["::"]

mutual

/-- The tree of a `use` declaration. -/
def useTree : Branch → UseTree
  | node info children =>
    let branch := node info children
    match info.kind with
    | "use_as_clause" =>
      .renamed (((branch.field? "path").map (·.pathNames text)).getD [])
        (((branch.field? "alias").map (·.written text)).getD "_")
    | "use_wildcard" =>
      .glob ((branch.namedChildren.head?.map (·.pathNames text)).getD [])
    | "scoped_use_list" => .group (branch.groupNames text) (listIn children)
    | "use_list" => .group [] (useTrees children)
    | _ => .path (branch.pathNames text)

/-- The trees of the group among branches. -/
def listIn : List Branch → List UseTree
  | [] => []
  | child :: rest =>
    if child.info.fields.contains "list" then [useTree child]
    else listIn rest

/-- The trees of a group. -/
def useTrees : List Branch → List UseTree
  | [] => []
  | child :: rest =>
    if child.isNamed && !child.isComment then useTree child :: useTrees rest
    else useTrees rest

end

/-! ## Functions -/

/-- The calling convention that an `extern` names. -/
def externMark (branch : Branch) : ExternMark :=
  ⟨(branch.child? "string_literal").map (·.chars text)⟩

/-- The text of a function between its visibility and its body. -/
def signature (branch : Branch) : String :=
  let start := match branch.child? "visibility_modifier" with
    | some modifier => modifier.info.stop
    | none => branch.info.start
  let stop := match branch.field? "body" with
    | some body => body.info.start
    | none => branch.info.stop
  let collapsed := Text.collapse (text.slice start stop)
  let bare := (collapsed.reverse.dropWhile (· = ';')).reverse
  String.ofList (Text.trim bare)

/-- A function without its body. -/
def functionHead? (branch : Branch) : Option FunctionHead := do
  let name ← branch.name? text
  let modifiers := ((branch.child? "function_modifiers").map
    Branch.children).getD []
  let marks := modifiers.filter (·.kind = "extern_modifier")
  return {
    name
    visibility := branch.visibility text
    signature := branch.signature text
    isUnsafe := modifiers.any (·.kind = "unsafe")
    isConst := modifiers.any (·.kind = "const")
    externMarks := marks.map (·.externMark text) }

/-! ## Structs and enums -/

/-- The fields of a struct with names. -/
def namedFields (children : List Branch) : List (Noted FieldHead) :=
  children.filterMap fun child =>
    match child.outerNote? text with
    | some note => some (.note note)
    | none =>
      if child.kind = "field_declaration" then
        some (.part ⟨child.name? text, child.visibility text,
          child.fieldText text "type"⟩)
      else none

/-- The fields of a struct without names, after a visibility. -/
def orderedFields (modifier : Option String) :
    List Branch → List (Noted FieldHead)
  | [] => []
  | child :: rest =>
    match child.outerNote? text with
    | some note => .note note :: orderedFields modifier rest
    | none =>
      if child.kind = "visibility_modifier" then
        orderedFields (some (child.collapsed text)) rest
      else if child.isNamed then
        .part ⟨none, Visibility.ofModifier modifier, child.collapsed text⟩ ::
          orderedFields none rest
      else orderedFields modifier rest

/-- The fields of a struct. -/
def fieldList (branch : Branch) : FieldList :=
  match branch.field? "body" with
  | none => .unit
  | some body =>
    if body.kind = "field_declaration_list" then
      .named (namedFields text body.children)
    else .ordered (orderedFields text none body.children)

/-- The variants of an enum. -/
def variants (branch : Branch) : List (Noted VariantHead) :=
  let children := ((branch.field? "body").map Branch.children).getD []
  children.filterMap fun child =>
    match child.outerNote? text with
    | some note => some (.note note)
    | none =>
      if child.kind = "enum_variant" then
        some (.part ⟨(child.name? text).getD "", child.fieldText text "body",
          (child.field? "value").map (·.collapsed text)⟩)
      else none

/-! ## Blocks -/

/-- An `impl` block without its items. -/
def implHead (branch : Branch) : ImplHead :=
  let sign := if branch.has "!" then "!" else ""
  { targetText := branch.fieldText text "type"
    traitText := (branch.field? "trait").map fun trait =>
      sign ++ trait.collapsed text
    isUnsafe := branch.has "unsafe"
    start := branch.info.start.bytes }

/-- The bounds of a type that has them instead of a definition. -/
def boundText? (branch : Branch) : Option String :=
  match branch.field? "bounds" with
  | none => none
  | some bounds =>
    let bare := (Text.collapse (bounds.chars text)).dropWhile (· = ':')
    match Text.trim bare with
    | [] => none
    | found => some (String.ofList found)

/-- The declaration that a branch is, if it holds no other declarations. -/
def plainDeclaration (branch : Branch) : Declaration :=
  match branch.kind, branch.name? text with
  | "use_declaration", _ =>
    .importing (branch.collapsed text) (branch.visibility text)
      (((branch.field? "argument").map (·.useTree text)).getD (.group [] []))
  | "macro_invocation", _ =>
    let name := branch.fieldText text "macro"
    .macroCall (if name = "" then "macro" else name) (branch.collapsed text)
  | "struct_item", some name | "union_item", some name =>
    .struct name (branch.visibility text) (branch.fieldList text)
  | "enum_item", some name =>
    .enum name (branch.visibility text) (branch.variants text)
  | "function_item", some name | "function_signature_item", some name =>
    match branch.functionHead? text with
    | some head => .function head
    | none => .named name
  | "const_item", some name =>
    .constant name (branch.visibility text) (branch.fieldText text "type")
      ((branch.field? "value").map (·.collapsed text))
  | "macro_definition", some name => .macroRules name
  | "associated_type", some name => .typeBound name (branch.boundText? text)
  | "type_item", some name =>
    .typeAlias name (branch.visibility text) (branch.fieldText text "type")
  | _, some name => .named name
  | _, none => .statement

mutual

/-- The declaration that a branch is. -/
def declaration : Branch → Declaration
  | node info children =>
    let branch := node info children
    match branch.note? text with
    | some note => .note note
    | none =>
      match info.kind, branch.name? text with
      | "impl_item", _ => .impl (branch.implHead text) (bodyIn children)
      | "foreign_mod_item", _ =>
        .foreign
          (((branch.child? "extern_modifier").map
            (·.externMark text)).getD ⟨none⟩)
          (bodyIn children)
      | "mod_item", some name =>
        .module name (branch.visibility text) (bodyIn children)
      | "trait_item", some name =>
        .trait name (branch.visibility text) (branch.has "unsafe")
          ((bodyIn children).getD [])
      | _, _ => branch.plainDeclaration text

/-- The declarations in the body among branches. -/
def bodyIn : List Branch → Option (List Declaration)
  | [] => none
  | child :: rest =>
    if child.info.fields.contains "body" then some (declarationsIn child)
    else bodyIn rest

/-- The declarations in a branch. -/
def declarationsIn : Branch → List Declaration
  | node _ children => declarations children

/-- The declarations among branches; mere signs are none. -/
def declarations : List Branch → List Declaration
  | [] => []
  | child :: rest =>
    if child.isNamed then declaration child :: declarations rest
    else declarations rest

end

end Branch

end CrateShelf.Source
