import CrateShelf.Docs.Literal
import CrateShelf.Text.Blank
import CrateShelf.Text.Lines

/-!
# Notes of an item

The comments and attributes around an item, and what they say about it: its
documentation, whether it is hidden, and from which file a module is read.
All other attributes say nothing here.
-/

namespace CrateShelf.Docs

/-!
## Documentation comments

A comment documents the item after it (outer form) or the item around it
(inner form).  Line comments lose one space after their marker; block
comments lose the column of stars that decorates their lines.
-/

/-- Whether a comment documents what follows it or what surrounds it. -/
inductive Direction where
  | outer
  | inner
deriving DecidableEq, Repr

/-- A text without the line ends at its end. -/
def trimLineEnd (text : List Char) : List Char :=
  (text.reverse.dropWhile fun char => char = '\r' || char = '\n').reverse

/-- A text without one space at its start. -/
def dropSpace : List Char → List Char
  | ' ' :: rest => rest
  | text => text

/-- What a line comment documents in a direction. -/
def lineComment? (direction : Direction) (text : List Char) :
    Option (List Char) :=
  match direction, trimLineEnd text with
  | .inner, '/' :: '/' :: '!' :: body => some (dropSpace body)
  | .inner, _ => none
  | .outer, '/' :: '/' :: '/' :: '/' :: _ => none
  | .outer, '/' :: '/' :: '/' :: body => some (dropSpace body)
  | .outer, _ => none

/-- A line of a block comment without the star that decorates it. -/
def dropStar (line : List Char) : List Char :=
  match Text.trimStart line with
  | '*' :: body => dropSpace body
  | _ => line

/-- Lines without the empty ones at either end. -/
def trimEmptyLines (lines : List (List Char)) : List (List Char) :=
  ((lines.dropWhile List.isEmpty).reverse.dropWhile List.isEmpty).reverse

/-- The lines of the inside of a block comment, without decoration. -/
def blockLines (body : List Char) : List (List Char) :=
  match Text.lines body with
  | [] => []
  | first :: later =>
    trimEmptyLines
      (Text.trim first :: later.map fun line => Text.trimEnd (dropStar line))

/-- What a block comment documents in a direction. -/
def blockComment? (direction : Direction) (text : List Char) :
    Option (List Char) :=
  let marked := match direction with
    | .inner => ['/', '*', '!'].isPrefixOf text
    | .outer =>
      ['/', '*', '*'].isPrefixOf text && (text.drop 3).head? != some '*'
  if marked && ['*', '/'].isSuffixOf text && 5 ≤ text.length then
    some (Text.unlines (blockLines ((text.drop 3).take (text.length - 5))))
  else none

/-! ## Notes -/

/-- A comment or attribute as it is written. -/
inductive Note where
  | lineComment (text : List Char)
  | blockComment (text : List Char)
  | attribute (direction : Direction) (text : List Char)
deriving DecidableEq, Repr

/-- What the notes of an item say. -/
structure Remarks where
  /-- The pieces of documentation, in source order. -/
  docs : List WideText := []
  /-- Whether the item is marked as hidden. -/
  hidden : Bool := false
  /-- The file that a module is read from, if one is named. -/
  file? : Option WideText := none
deriving DecidableEq, Repr, Inhabited

/-- The text between the brackets of an attribute. -/
def attributeBody? (written : List Char) : Option (List Char) :=
  let inside? := match Text.trim written with
    | '#' :: '!' :: '[' :: rest => some rest
    | '#' :: '[' :: rest => some rest
    | _ => none
  match inside? with
  | none => none
  | some inside =>
    match inside.reverse.dropWhile (· != ']') with
    | [] => none
    | _ :: body => some (Text.trim body.reverse)

/-- The value of an attribute `name = value`. -/
def attributeValue? (name body : List Char) : Option (List Char) :=
  if name.isPrefixOf body then
    match Text.trimStart (body.drop name.length) with
    | '=' :: value =>
      let value := Text.trimStart value
      if value.isEmpty then none else some value
    | _ => none
  else none

/-- The words of an attribute `name(word, …)`. -/
def attributeWords? (name body : List Char) : Option (List (List Char)) :=
  if name.isPrefixOf body then
    match Text.trimStart (body.drop name.length) with
    | '(' :: rest =>
      if rest.getLast? = some ')' then
        some ((Text.splitAt ',' rest.dropLast).map Text.trim)
      else none
    | _ => none
  else none

namespace Remarks

/-- The remarks with one more piece of documentation. -/
def addDoc (remarks : Remarks) (text : WideText) : Remarks :=
  { remarks with docs := remarks.docs ++ [text] }

/-- The remarks with what a comment says, if it documents something. -/
def addComment (remarks : Remarks) : Option (List Char) → Remarks
  | some doc => remarks.addDoc (.whole (String.ofList doc))
  | none => remarks

/-- The remarks with what an attribute says. -/
def addAttribute (remarks : Remarks) (written : List Char) :
    Except LiteralError Remarks :=
  match attributeBody? written with
  | none => return remarks
  | some body =>
    match attributeValue? "doc".toList body with
    | some value => return remarks.addDoc (.ofPoints (← literalValue value))
    | none =>
      match attributeWords? "doc".toList body with
      | some words =>
        return { remarks with
          hidden := remarks.hidden || words.contains "hidden".toList }
      | none =>
        match attributeValue? "path".toList body with
        | some value =>
          return { remarks with
            file? := some (.ofPoints (← literalValue value)) }
        | none => return remarks

/-- The remarks with what a note says in a direction. -/
def addNote (direction : Direction) (remarks : Remarks) :
    Note → Except LiteralError Remarks
  | .lineComment text =>
    return remarks.addComment (lineComment? direction text)
  | .blockComment text =>
    return remarks.addComment (blockComment? direction text)
  | .attribute other text =>
    if other = direction then remarks.addAttribute text else return remarks

/-- What notes say, read from first to last, in a direction. -/
def ofNotes (direction : Direction) (notes : List Note) :
    Except LiteralError Remarks :=
  notes.foldlM (addNote direction) {}

@[simp]
theorem addDoc_docs (remarks : Remarks) (text : WideText) :
    (remarks.addDoc text).docs = remarks.docs ++ [text] := rfl

@[simp]
theorem addDoc_hidden (remarks : Remarks) (text : WideText) :
    (remarks.addDoc text).hidden = remarks.hidden := rfl

@[simp]
theorem ofNotes_nil (direction : Direction) :
    ofNotes direction [] = .ok {} := rfl

end Remarks

end CrateShelf.Docs
