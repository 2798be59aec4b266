import CrateShelf.Depths
import CrateShelf.Markdown.Block
import CrateShelf.Markdown.Code
import CrateShelf.Markdown.Inline
import CrateShelf.Terminal.Wrap

/-!
# Showing a document

Each block becomes lines; an empty line separates two blocks that show
something.
-/

namespace CrateShelf.Markdown

open Terminal

/-- The narrowest width that block marks and the indent of code fit into. -/
def leastColumns : Nat := 10

/-- A line of a sign, dimmed where colours are wanted. -/
def horizontalRule (colored : Bool) (columns : Nat) : Line :=
  if colored then inStyle true "2" (List.replicate columns '─')
  else List.replicate columns '-'

/-- The lines of a heading. -/
def renderHeading (options : Options) (columns level : Nat) (title : Line) :
    List Line :=
  let text := renderInline options.colored title
  let lines := carryStyles options.colored
    (wrap columns [] [] (inStyle options.colored "1;36" text))
  let sign := if options.colored then '─' else '-'
  if level ≤ 2 then
    lines ++ [List.replicate (min (width text) columns) sign]
  else lines

/-- The sign in front of a list entry. -/
def bullet (marker : Line) : Line :=
  if marker = ['-'] || marker = ['*'] || marker = ['+'] then ['•']
  else marker

/-- The lines of a list entry. -/
def renderItem (options : Options) (columns : Nat) (item : ListItem) :
    List Line :=
  let lead := List.replicate item.indent ' ' ++ bullet item.marker ++ [' ']
  let hanging := List.replicate (width lead) ' '
  carryStyles options.colored
    (wrap columns lead hanging (renderInline options.colored item.text))

/-- The lines of a paragraph. -/
def renderParagraph (options : Options) (columns : Nat) (text : Line) :
    List Line :=
  carryStyles options.colored
    (wrap columns [] [] (renderInline options.colored text))

/-- Lines followed by the lines of another block. -/
def appendBlock (lines block : List Line) : List Line :=
  if lines.isEmpty then block else lines ++ [] :: block

mutual

/-- The lines of a block in a number of columns. -/
def renderBlock (highlighter : Highlighter) (options : Options)
    (columns : Nat) : Block → List Line
  | .fencedCode information lines =>
    renderCode highlighter options columns
      (fenceLanguage information options.defaultLanguage.toList) lines
  | .indentedCode lines =>
    renderCode highlighter options columns options.defaultLanguage.toList
      lines
  | .heading level title => renderHeading options columns level title
  | .rule => [horizontalRule options.colored columns]
  | .quote blocks =>
    let bar := inStyle options.colored "2" ['│'] ++ [' ']
    (renderBlocks highlighter options (columns - 2) [] blocks).map (bar ++ ·)
  | .list items => items.flatMap (renderItem options columns)
  | .paragraph text => renderParagraph options columns text

/-- Lines followed by the lines of blocks. -/
def renderBlocks (highlighter : Highlighter) (options : Options)
    (columns : Nat) (lines : List Line) : List Block → List Line
  | [] => lines
  | block :: rest =>
    renderBlocks highlighter options columns
      (appendBlock lines (renderBlock highlighter options columns block)) rest

end

/-- The blocks of a document. -/
def blocksOf (text : List Char) : List Block :=
  readBlocks (Text.lines (Text.expandTabs 4 text))

/-- A document in a number of columns. -/
def render (highlighter : Highlighter) (options : Options) (columns : Nat)
    (text : List Char) : List Char :=
  Text.dropLineEnds <|
    Text.unlines <|
      renderBlocks highlighter options (max columns leastColumns) []
        (blocksOf text)

/-- Whether a document can be shown: its quotes are not nested too deeply. -/
def isShowable [Depths] (text : List Char) : Bool :=
  depthOf (blocksOf text) ≤ Depths.quotes

end CrateShelf.Markdown
