import CrateShelf.Finder.Catalog
import CrateShelf.Text.Quoted

/-!
# The search screen

The screen shows a query line and the results below it, one of them marked.
A key edits the query, moves the mark, asks to open the marked result or to
leave.  What is drawn is a list of calls to a window, which can be compared
or carried out.
-/

namespace CrateShelf.Finder

/-- A key press: a text, usually one character, or the code of a special
key. -/
inductive Key where
  | text (typed : String)
  | code (number : Int)
deriving DecidableEq, Repr, Inhabited

namespace Key

/-- Escape. -/
def isEscape : Key → Bool
  | text typed => typed == "\x1b"
  | code number => number == 27

/-- Enter, return or line feed. -/
def isEnter : Key → Bool
  | text typed => typed == "\n" || typed == "\r"
  | code number => number == 343 || number == 10 || number == 13

/-- Backspace or delete. -/
def isBackspace : Key → Bool
  | text typed => typed == "\x7f" || typed == "\x08"
  | code number => number == 263 || number == 127 || number == 8

/-- The upward arrow. -/
def isUp (key : Key) : Bool :=
  key == code 259

/-- The downward arrow. -/
def isDown (key : Key) : Bool :=
  key == code 258

/-- The text that a key adds to the query. -/
def addition? : Key → Option String
  | text typed =>
    if typed.toList.all Text.isPrintable then some typed else none
  | code _ => none

end Key

/-- What is to happen after a key press. -/
inductive Action where
  | stay
  | openSelection
  | quit
deriving DecidableEq, Repr, Inhabited

/-- The name of an action. -/
def Action.name : Action → String
  | stay => "continue"
  | openSelection => "open"
  | quit => "quit"

/-- A call to a window. -/
inductive DrawCall where
  /-- Write at most `limit` characters of a text; `marked` says whether the
  text is shown in reverse, and nothing where no attribute is given. -/
  | write (row column : Nat) (text : String) (limit : Int)
      (marked : Option Bool)
  /-- Put the cursor somewhere. -/
  | moveTo (row : Nat) (column : Int)
deriving DecidableEq, Repr, Inhabited

/-- The search screen. -/
structure Screen where
  catalog : Catalog
  query : String
  results : List Hit
  cursor : Nat
deriving Repr, Inhabited

namespace Screen

/-- What stands before the query. -/
def prompt : String := "> "

/-- Runs the query again and keeps the cursor among the results. -/
def refresh (screen : Screen) : Screen :=
  let (results, catalog) := screen.catalog.run screen.query
  { screen with
    catalog
    results
    cursor := min screen.cursor (results.length - 1) }

/-- A screen with an empty query. -/
def start (catalog : Catalog) : Screen :=
  refresh ⟨catalog, "", [], 0⟩

/-- The screen whose query was replaced, before its results are. -/
def withQuery (screen : Screen) (query : String) : Screen :=
  { screen with query }

/-- The screen before its results are refreshed, if the key edits the
query. -/
def edited? (screen : Screen) (key : Key) : Option Screen :=
  if key.isEscape || key.isEnter then none
  else if key.isBackspace then
    if screen.query = "" then none
    else
      some (screen.withQuery
        (String.ofList screen.query.toList.dropLast))
  else if key.isUp || key.isDown then none
  else
    key.addition?.map fun typed =>
      { screen.withQuery (screen.query ++ typed) with cursor := 0 }

/-- Moves the cursor up, from the first result to the last. -/
def up (screen : Screen) : Screen :=
  match screen.results.length with
  | 0 => screen
  | count + 1 =>
    { screen with cursor := (screen.cursor + count) % (count + 1) }

/-- Moves the cursor down, from the last result to the first. -/
def down (screen : Screen) : Screen :=
  match screen.results.length with
  | 0 => screen
  | count + 1 =>
    { screen with cursor := (screen.cursor + 1) % (count + 1) }

/-- The screen after a key press and what is to happen next. -/
def press (screen : Screen) (key : Key) : Action × Screen :=
  if key.isEscape then (.quit, screen)
  else if key.isEnter then
    (if screen.results.isEmpty then .stay else .openSelection, screen)
  else
    match screen.edited? key with
    | some edited => (.stay, edited.refresh)
    | none =>
      if key.isUp then (.stay, screen.up)
      else if key.isDown then (.stay, screen.down)
      else (.stay, screen)

/-- The states in which results were ranked while a key was handled. -/
def pressSteps (screen : Screen) (key : Key) : List Search :=
  match screen.edited? key with
  | some edited => edited.catalog.searchSteps edited.query
  | none => []

/-- The location of the marked result. -/
def selected? (screen : Screen) : Option Location :=
  screen.results[screen.cursor]?.bind fun hit =>
    screen.catalog.locations[hit.index]?

/-- The rows of the results that fit, the first of them at a row. -/
def drawResults (screen : Screen) (width : Int) :
    Nat → List Hit → List DrawCall
  | _, [] => []
  | row, hit :: hits =>
    .write row 0 hit.display (width - 1) (some (row == screen.cursor + 2)) ::
      screen.drawResults width (row + 1) hits

/-- The calls that draw the screen in a window. -/
def draw (screen : Screen) (height width : Int) : List DrawCall :=
  .write 0 0 (prompt ++ screen.query) (width - 1) none ::
    screen.drawResults width 2 (screen.results.take (height - 2).toNat) ++
    [.moveTo 0 (min (prompt.length + screen.query.length : Int) (width - 1))]

end Screen

end CrateShelf.Finder
