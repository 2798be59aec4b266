import CrateShelf.Markdown.Render
import CrateShelf.Record.Basic

/-!
# Pages

A page shows one record: where it comes from, its declaration, its
documentation and its links.
-/

namespace CrateShelf.Page

open Terminal

/-- The narrowest page. -/
def leastColumns : Nat := 20

/-- A text in a style. -/
def styled (options : Markdown.Options) (parameters text : String) :
    List Char :=
  inStyle options.colored parameters text.toList

/-- The documentation of a record as a document. -/
def document (record : Record) : List Char :=
  Text.trim record.docText.toList

/-- The documentation of a record, or a remark that there is none. -/
def body (options : Markdown.Options) (columns : Nat) (record : Record) :
    List Char :=
  let text := document record
  if text.isEmpty then styled options "2" "No documentation."
  else Markdown.render Markdown.Highlighter.standard options columns text

/-- The lines that list the links of a kind. -/
def linkLines (options : Markdown.Options) (record : Record) (kind : Kind) :
    List (List Char) :=
  [] :: styled options "1" kind.label ::
    (record.links.get kind).map fun link => ' ' :: ' ' :: link.name.written.toList

/-- The page of a record in a number of columns. -/
def render (options : Markdown.Options) (columns : Nat) (record : Record) :
    String :=
  let columns := max columns leastColumns
  let rule := Markdown.horizontalRule options.colored columns
  let heading := [
    styled options "2"
      ("crate " ++ record.crate.toText),
    styled options "1" (record.kind.title ++ " " ++ record.path.toText)]
  let context := match record.context? with
    | some text => if text = "" then [] else [text.toList]
    | none => []
  let declaration := [rule, record.signature.toList, rule, []]
  let lines := heading ++ context ++ declaration ++
    body options columns record ::
      record.linkKinds.flatMap (linkLines options record)
  String.ofList (Text.unlines lines ++ ['\n'])

/-- Why no page of a record can be made. -/
inductive PageError where
  /-- A line of the page would not be a text. -/
  | illegible
  /-- The documentation cannot be shown. -/
  | tooDeep
deriving DecidableEq, Repr

/-- A document on its own, if it can be shown. -/
def ofDocument [Depths] (options : Markdown.Options) (columns : Nat)
    (text : List Char) : Except PageError String :=
  if Markdown.isShowable text then
    .ok (String.ofList
      (Markdown.render Markdown.Highlighter.standard options columns text))
  else .error .tooDeep

/-- The page of a record, if one can be made. -/
def make [Depths] (options : Markdown.Options) (columns : Nat) (record : Record) :
    Except PageError String :=
  if !record.isLegible then .error .illegible
  else if !Markdown.isShowable (document record) then .error .tooDeep
  else .ok (render options columns record)

end CrateShelf.Page
