import CrateShelf.Text.Blank
import CrateShelf.Text.CharClass
import CrateShelf.Text.Split
import CrateShelf.Tree.UseTable

/-!
# The name of a type

An `impl` block names the type it is about by a type expression.  References,
lifetimes, keywords in front and generic arguments do not matter for finding
the type: what remains is a path.
-/

namespace CrateShelf.Tree

/-- A type expression without its generic arguments, at a depth of open
brackets. -/
def stripGenericsFrom : (depth : Nat) → List Char → List Char
  | _, [] => []
  | depth, char :: rest =>
    if char = '<' then stripGenericsFrom (depth + 1) rest
    else
      match depth with
      | 0 => char :: stripGenericsFrom 0 rest
      | depth + 1 =>
        if char = '>' then stripGenericsFrom depth rest
        else stripGenericsFrom (depth + 1) rest

/-- A type expression without its generic arguments. -/
def stripGenerics (text : List Char) : List Char :=
  stripGenericsFrom 0 text

/-- What follows a word and at least one blank. -/
def afterWord? (word : String) (text : List Char) : Option (List Char) :=
  if word.toList.isPrefixOf text then
    match text.drop word.length with
    | char :: rest =>
      if Text.isBlank char then some (Text.trimStart rest) else none
    | [] => none
  else none

/-- What follows a mark that does not belong to the name of a type. -/
def afterMark? (text : List Char) : Option (List Char) :=
  match text with
  | '&' :: rest => some (Text.trimStart rest)
  | '\'' :: rest =>
    if rest.head?.any Text.isWordChar then
      some (Text.trimStart (rest.dropWhile Text.isWordChar))
    else none
  | '*' :: rest =>
    let rest := Text.trimStart rest
    afterWord? "const" rest <|> afterWord? "mut" rest
  | _ => afterWord? "mut" text <|> afterWord? "dyn" text
    <|> afterWord? "impl" text

/-- A type expression without the marks in front of it, of which there are at
most a number. -/
def dropMarks : Nat → List Char → List Char
  | 0, text => text
  | count + 1, text =>
    match afterMark? text with
    | some rest => dropMarks count rest
    | none => text

/-- The names of the path of a type. -/
def typeNames (text : String) : List String :=
  let trimmed := Text.trim text.toList
  let bare := Text.squeeze
    (stripGenerics (dropMarks trimmed.length trimmed))
  let names := (ItemPath.parse (String.ofList bare)).segments
  if [':', ':'].isPrefixOf bare then UseTable.globalAnchor :: names
  else names

end CrateShelf.Tree
