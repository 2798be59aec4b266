import CrateShelf.Location
import CrateShelf.Record.Payload

/-!
# Records

A record documents one item.  It is the unit that is stored, searched and
shown.  Its links lead to other records, filed under their kind in the order
in which the first link of each kind was added.
-/

namespace CrateShelf

/-- A named reference to another record. -/
structure Link where
  name : Label
  path : ItemPath
deriving DecidableEq, Repr, Inhabited

/-- Links filed under kinds. -/
abbrev Links := List (Kind × List Link)

namespace Links

/-- The links of a kind. -/
def get (links : Links) (kind : Kind) : List Link :=
  (links.lookup kind).getD []

/-- The links with one more under a kind. -/
def add (links : Links) (kind : Kind) (link : Link) : Links :=
  match links with
  | [] => [(kind, [link])]
  | (other, known) :: rest =>
    if other = kind then (other, known ++ [link]) :: rest
    else (other, known) :: add rest kind link

/-- The links with those of a kind replaced, or filed at the end. -/
def set (links : Links) (kind : Kind) (new : List Link) : Links :=
  match links with
  | [] => [(kind, new)]
  | (other, known) :: rest =>
    if other = kind then (other, new) :: rest
    else (other, known) :: set rest kind new

/-- The kinds that have links, the usual ones of a record's kind first. -/
def kindsFor (links : Links) (kind : Kind) : List Kind :=
  let usual := kind.linkCategories.filter fun category =>
    !(links.get category).isEmpty
  let others := links.filterMap fun (category, known) =>
    if known.isEmpty || category ∈ usual then none else some category
  usual ++ others

end Links

/-- A documented item. -/
structure Record where
  name : Label
  kind : Kind
  crate : CrateId
  path : ItemPath
  visibility : Visibility
  docs : List Label
  payload : Payload
  links : Links := []
  implContext : Option ImplContext := none
deriving DecidableEq, Repr, Inhabited

namespace Record

/-- The address of the record, with a discriminator if need be. -/
def location (record : Record) (discriminator : String) : Location :=
  ⟨record.crate, record.path, record.name, record.kind, discriminator⟩

/-- The declaration line shown above the documentation. -/
def signature (record : Record) : String :=
  record.payload.signature record.kind record.name.written record.visibility

/-- The first piece of documentation, used in listings. -/
def summaryOf (docs : List WideText) : WideText :=
  match docs with
  | [] => .whole ""
  | first :: _ => first.trim

/-- The first piece of the record's documentation, unless it is no text. -/
def summary? (record : Record) : Option WideText :=
  match record.docs with
  | [] => some (.whole "")
  | .text first :: _ => some (summaryOf [.whole first])
  | .torn first :: _ => some (summaryOf [.torn first])
  | _ => none

/-- Whether the declaration line is nothing but the name. -/
def isBare (record : Record) : Bool :=
  match record.kind, record.payload with
  | .variant, .variant data => data.dataText.getD "" = ""
  | _, _ => false

/-- Whether a page of the record can be made and shown: its documentation, and
a name that makes up a line of its own, are texts that are not torn. -/
def isLegible (record : Record) : Bool :=
  record.docs.all (·.isWholeText) &&
    (record.name.isWholeText || !record.isBare)

/-- The whole documentation. -/
def docText (record : Record) : String :=
  "\n".intercalate (record.docs.map (·.written))

/-- The kinds of links to show, in order. -/
def linkKinds (record : Record) : List Kind :=
  record.links.kindsFor record.kind

/-- Where the item was declared, in words. -/
def context? (record : Record) : Option String :=
  match record.implContext with
  | some context =>
    let trait := (context.traitRefText.getD none).getD ""
    if trait = "" then some ("Impl on type " ++ context.targetTypeText)
    else
      some ("From trait " ++ trait ++ " on type " ++ context.targetTypeText)
  | none =>
    match record.path.parent?, record.payload with
    | none, _ => none
    | _, .module ⟨some true⟩ => none
    | some parent, _ =>
      if record.kind.isTraitItem then some ("From trait " ++ parent.toText)
      else if record.kind = .structField then
        some ("In struct " ++ parent.toText)
      else if record.kind = .variant then some ("In enum " ++ parent.toText)
      else some ("In module " ++ parent.toText)

end Record

end CrateShelf
