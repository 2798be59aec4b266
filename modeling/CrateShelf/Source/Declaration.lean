import CrateShelf.Docs.Note
import CrateShelf.Record.Attribute

/-!
# Declarations of a source file

What a source file declares, as far as documentation is concerned.  Comments
and attributes stand between declarations, in the order of the file; texts
have one space for each stretch of blanks.
-/

namespace CrateShelf.Source

/-- The tree of a `use` declaration.  Paths are given by their names; a
leading `::` is a name of its own. -/
inductive UseTree where
  /-- One path. -/
  | path (names : List String)
  /-- One path under another name. -/
  | renamed (names : List String) (newName : String)
  /-- Everything in a path. -/
  | glob (names : List String)
  /-- Several trees below a path. -/
  | group (names : List String) (trees : List UseTree)

/-- The calling convention that a declaration names: after `extern` comes a
string literal or nothing. -/
structure ExternMark where
  literal : Option (List Char)
deriving DecidableEq, Repr

/-- A function without its body. -/
structure FunctionHead where
  name : String
  visibility : Visibility
  /-- The text between the visibility and the body. -/
  signature : String
  isUnsafe : Bool
  isConst : Bool
  /-- What is said of the calling convention, more than once if need be. -/
  externMarks : List ExternMark
deriving DecidableEq, Repr

/-- A field of a struct; fields of tuple structs have no name. -/
structure FieldHead where
  name : Option String
  visibility : Visibility
  typeText : String
deriving DecidableEq, Repr

/-- A variant of an enum. -/
structure VariantHead where
  name : String
  bodyText : String
  valueText : Option String
deriving DecidableEq, Repr

/-- A comment, an attribute or a part of a declaration. -/
inductive Noted (α : Type) where
  | note (note : Docs.Note)
  | part (value : α)
deriving DecidableEq, Repr

/-- The fields of a struct. -/
inductive FieldList where
  /-- Nothing but a semicolon. -/
  | unit
  | named (fields : List (Noted FieldHead))
  | ordered (fields : List (Noted FieldHead))
deriving DecidableEq, Repr

/-- An `impl` block without its items. -/
structure ImplHead where
  targetText : String
  traitText : Option String
  isUnsafe : Bool
  /-- The number of bytes before the block. -/
  start : Nat
deriving DecidableEq, Repr

/-- What stands in a file, in a module or in the body of a trait or `impl`
block. -/
inductive Declaration where
  | note (note : Docs.Note)
  | importing (text : String) (visibility : Visibility) (tree : UseTree)
  | module (name : String) (visibility : Visibility)
      (body : Option (List Declaration))
  | foreign (mark : ExternMark) (body : Option (List Declaration))
  | struct (name : String) (visibility : Visibility) (fields : FieldList)
  | enum (name : String) (visibility : Visibility)
      (variants : List (Noted VariantHead))
  | function (head : FunctionHead)
  | constant (name : String) (visibility : Visibility) (typeText : String)
      (valueText : Option String)
  | trait (name : String) (visibility : Visibility) (isUnsafe : Bool)
      (body : List Declaration)
  | impl (head : ImplHead) (body : Option (List Declaration))
  | macroRules (name : String)
  /-- The use of a macro, with the text of its name and of the whole. -/
  | macroCall (nameText text : String)
  /-- A type with bounds instead of a definition. -/
  | typeBound (name : String) (boundText : Option String)
  | typeAlias (name : String) (visibility : Visibility) (typeText : String)
  /-- Something with a name that is not documented. -/
  | named (name : String)
  /-- Anything else. -/
  | statement

namespace Declaration

/-- The note that a declaration is. -/
def note? : Declaration → Option Docs.Note
  | note content => some content
  | _ => none

end Declaration

end CrateShelf.Source
