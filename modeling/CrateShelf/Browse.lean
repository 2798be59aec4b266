import CrateShelf.Fault
import CrateShelf.Finder.Screen
import CrateShelf.Page

/-!
# Browsing

The search screen is drawn and a key is read, again and again.  The record
that the user opens is shown as a page by another program.
-/

namespace CrateShelf.Browse

open Finder

/-- Where and how browsing takes place. -/
structure Place where
  store : Store
  rendering : Rendering
  height : Int
  width : Int
  /-- Whether the program that shows pages can be started. -/
  hasPager : Bool := true

/-- What was shown: the calls that drew each frame, and the pages with the
commands that showed them. -/
structure Showing where
  frames : List (List DrawCall) := []
  pages : List (List String × String) := []
deriving Repr

namespace Showing

/-- One more frame in front. -/
def withFrame (frame : List DrawCall) (showing : Showing) : Showing :=
  { showing with frames := frame :: showing.frames }

/-- More pages in front. -/
def withPages (pages : List (List String × String)) (showing : Showing) :
    Showing :=
  { showing with pages := pages ++ showing.pages }

end Showing

variable [Depths]

/-- The page of a location.  A record that cannot be read has a page that
says so. -/
def pageOf (place : Place) (location : Location) : Job Fault String := do
  match ← Job.attempt (Job.adapt .store (place.store.load location)) with
  | .ok record =>
    let columns ← Job.ofExcept .misuse
      (place.rendering.columns place.width Page.leastColumns)
    let options : Markdown.Options := {
      colored := place.rendering.colored
      defaultLanguage := place.rendering.languageName }
    Job.ofExcept .page (Page.make options columns record)
  | .error fault =>
    if Fault.isForeseen fault then return "error: " ++ fault.shown ++ "\n"
    else throw fault

/-- The command that shows pages. -/
def pagerCommand (environment : Environment) :
    Except CommandLine.CommandError (List String) :=
  CommandLine.commandWords ((environment.lookup "PAGER").getD "less -R")

/-- A list of texts as it is shown in messages. -/
def shownWords (words : List String) : String :=
  "[" ++ ", ".intercalate (words.map quote) ++ "]"

/-- Shows the page of the marked result, if one is marked. -/
def showSelection (place : Place) (screen : Screen) :
    Job Fault (List (List String × String)) := do
  match screen.selected? with
  | none => return []
  | some location =>
    let page ← pageOf place location
    let command ← Job.ofExcept .pager (pagerCommand (← get).environment)
    if place.hasPager then return [(command, page)]
    else
      Job.note ⟨.error, "tui",
        "Could not start pager " ++ shownWords command⟩
      return []

/-- Handles keys one after the other; when there are no more, the user
leaves. -/
def run (place : Place) (screen : Screen) : List Key → Job Fault Showing
  | [] => return { frames := [screen.draw place.height place.width] }
  | key :: rest => do
    let frame := screen.draw place.height place.width
    Job.noteAll ((screen.pressSteps key).map Search.rankedEntry)
    match screen.press key with
    | (.quit, _) => return { frames := [frame] }
    | (.stay, after) =>
      return (← run place after rest).withFrame frame
    | (.openSelection, after) =>
      let pages ← showSelection place after
      let more ← run place after rest
      return (more.withPages pages).withFrame frame

end CrateShelf.Browse
