import CrateShelf.Disk.Path
import CrateShelf.Log
import CrateShelf.Record.Payload
import CrateShelf.Tree.UseTable

/-!
# The tree of a crate

The documented items of a crate, module by module.  `impl` blocks are kept in
a list of their own, since the type that a block is about is found only after
the whole crate has been read; the tree holds their numbers.
-/

namespace CrateShelf.Tree

/-- A function's signature and qualifiers. -/
structure Signature where
  text : String
  safety : Safety
  constness : Constness
  abi : Abi
  kind : FnKind
deriving DecidableEq, Repr, Inhabited

/-- A field of a struct; fields of tuple structs have no name. -/
structure Field where
  name : Option String
  visibility : Visibility
  typeText : String
  docs : List WideText
deriving DecidableEq, Repr, Inhabited

/-- A variant of an enum. -/
structure Variant where
  name : String
  dataText : String
  docs : List WideText
deriving DecidableEq, Repr, Inhabited

/-- What an item of a trait or an `impl` block is. -/
inductive AssocContent where
  | constant (typeText : String) (valueText : Option String)
  | method (signature : Signature)
  /-- The bound in a trait, the definition in an `impl` block. -/
  | type (text : Option String)
  | macroCall (text : String)
deriving DecidableEq, Repr, Inhabited

/-- An item of a trait or an `impl` block. -/
structure AssocItem where
  name : String
  visibility : Visibility
  docs : List WideText
  content : AssocContent
deriving DecidableEq, Repr, Inhabited

/-- What all named items have. -/
structure Head where
  name : String
  path : ItemPath
  visibility : Visibility
  docs : List WideText
deriving DecidableEq, Repr, Inhabited

/-- What a module has beside its items. -/
structure ModuleInfo where
  isRoot : Bool := false
  file? : Option DiskPath := none
  uses : UseTable := []
deriving DecidableEq, Repr, Inhabited

/-- An item of a crate. -/
inductive Item where
  | module (head : Head) (info : ModuleInfo) (items : List Item)
  | struct (head : Head) (fields : List Field) (isTuple : Bool)
  | enum (head : Head) (variants : List Variant)
  | function (head : Head) (signature : Signature)
  | constant (head : Head) (typeText valueText : String)
  | trait (head : Head) (safety : Safety) (items : List AssocItem)
  | macroRules (head : Head) (text : String)
  | importing (text : String) (visibility : Visibility)
  /-- The place of an `impl` block, by its number. -/
  | impl (order : Nat)
deriving Inhabited

/-- An `impl` block. -/
structure Impl where
  modulePath : ItemPath
  targetText : String
  traitText : Option String
  safety : Safety
  items : List AssocItem
  docs : List WideText
  file? : Option DiskPath
  /-- The number of bytes before the block in its file. -/
  start : Nat
  /-- The number of blocks before it, depth first. -/
  order : Nat
deriving DecidableEq, Repr, Inhabited

/-- A crate as it was read. -/
structure CrateTree where
  head : Head
  info : ModuleInfo
  items : List Item
  impls : List Impl
  /-- The paths of items that were left out because they are hidden. -/
  hidden : List ItemPath
deriving Inhabited

/-- The root module of a crate. -/
def CrateTree.root (tree : CrateTree) : Item :=
  .module tree.head tree.info tree.items

end CrateShelf.Tree
