import CrateShelf.Highlight.Rust
import CrateShelf.Text.Casing
import CrateShelf.Text.Lines

/-!
# Code blocks

Code is cut to the width at hand, indented, and highlighted if colours are
wanted and its language is known.  Lines of Rust code that only help an
example to compile are marked by a hash sign and left out.
-/

namespace CrateShelf.Markdown

/-- How documents are shown. -/
structure Options where
  /-- Whether styles are written. -/
  colored : Bool := true
  /-- The language of code that does not name one. -/
  defaultLanguage : String := "rust"
deriving DecidableEq, Repr, Inhabited

/-- The languages that can be highlighted. -/
inductive Language where
  | rust
  | text
deriving DecidableEq, Repr

/-- The language with a name, in any case. -/
def Language.named? (name : List Char) : Option Language :=
  let lowered := String.ofList (Text.lower name)
  if lowered = "rust" || lowered = "rs" then some .rust
  else if lowered = "text" then some .text
  else none

/-- The tokens of code in a language. -/
def Language.tokens : Language → List Char → List Highlight.Token
  | .rust, code => Highlight.rustTokens code
  | .text, code => [⟨.plain, code⟩]

/-- How code is written in colours. -/
abbrev Painter := List Char → List Char

/-- A way to highlight code: how it is painted, if the language of the given
name is known. -/
abbrev Highlighter := List Char → Option Painter

/-- Code of the languages that can be highlighted is painted token by
token. -/
def Highlighter.standard : Highlighter := fun name =>
  (Language.named? name).map fun language code =>
    Highlight.paintAll (language.tokens code)

/-- Tags of a code fence that say how an example is tested. -/
def testTags : List String :=
  ["ignore", "no_run", "should_panic", "compile_fail", "test_harness"]

/-- Whether a tag of a code fence names a language. -/
def isLanguageTag (tag : List Char) : Bool :=
  !(String.ofList tag ∈ testTags || "edition".toList.isPrefixOf tag)

/-- The language that the information of a code fence asks for. -/
def fenceLanguage (information default : List Char) : List Char :=
  let tags := Text.words (Text.replaceChar ',' ' ' information)
  (tags.find? isLanguageTag).getD default

/-- Whether a line of Rust code is hidden from the reader. -/
def isHiddenLine (line : List Char) : Bool :=
  Text.trim line = ['#'] || ['#', ' '].isPrefixOf (Text.trimStart line)

/-- A text without a byte order mark. -/
def dropOrderMark : List Char → List Char
  | first :: rest => if first.toNat = 0xFEFF then rest else first :: rest
  | [] => []

/-- Lines of code with colours. -/
def highlight (paint : Painter) (lines : List (List Char)) :
    List (List Char) :=
  let code := Text.unlines lines ++ ['\n']
  let painted := paint (Text.unifyLineEnds (dropOrderMark code))
  (Text.lines (Text.dropLineEnds painted)).take lines.length

/-- The lines of a code block in a number of columns. -/
def renderCode (highlighter : Highlighter) (options : Options)
    (columns : Nat) (language : List Char) (lines : List (List Char)) :
    List (List Char) :=
  let indent := [' ', ' ']
  let shown :=
    if language = "rust".toList then
      lines.filter fun line => !isHiddenLine line
    else lines
  let cut := shown.map (·.take (max (columns - indent.length) 1))
  let known :=
    if options.colored then
      highlighter language <|> highlighter options.defaultLanguage.toList
    else none
  let painted := match known with
    | some paint => highlight paint cut
    | none => cut
  painted.map (indent ++ ·)

end CrateShelf.Markdown
