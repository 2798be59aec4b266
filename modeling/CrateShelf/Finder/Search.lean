import CrateShelf.Finder.Ranking
import CrateShelf.Finder.Window
import CrateShelf.Log
import CrateShelf.Text.Quoted

/-!
# Incremental search

A search runs over a fixed list of lines.  It keeps one frame of candidate
lines per character of the query, each a part of the one before, so that
deleting a character just uncovers the previous frame.  The visible results
are the best of the topmost frame, and a cursor points at one of them.
-/

namespace CrateShelf.Finder

/-- A search over lines. -/
structure Search where
  lines : Array String
  limit : Int
  /-- The query, the last character first. -/
  typed : List Char
  /-- The candidates of the empty query. -/
  bottom : List Nat
  /-- The candidates after each character of the query, the last first. -/
  frames : List (List Nat)
  results : List Nat
  cursor : Nat
deriving Repr, Inhabited

namespace Search

/-- The query. -/
def query (search : Search) : String :=
  String.ofList search.typed.reverse

/-- Every line that matches the query, in order. -/
def candidates (search : Search) : List Nat :=
  search.frames.headD search.bottom

/-- The line with a number. -/
def line (search : Search) (index : Nat) : String :=
  search.lines[index]?.getD ""

/-- The number of frames. -/
def height (search : Search) : Nat :=
  search.frames.length + 1

/-- The ranking of the candidates. -/
def ranking (search : Search) : Ranking UInt64 :=
  search.candidates.foldl
    (fun ranking index =>
      match score? search.query (search.line index) with
      | some score => ranking.push ⟨score.quality, score.start, index⟩
      | none => ranking)
    (Ranking.empty search.limit)

/-- Computes the visible results anew and keeps the cursor among them. -/
def rank (search : Search) : Search :=
  let results := search.ranking.lines
  { search with
    results
    cursor := min search.cursor (results.length - 1) }

/-- A new search with an empty query. -/
def start (lines : List String) (limit : Int) : Search :=
  rank {
    lines := lines.toArray
    limit
    typed := []
    bottom := List.range lines.length
    frames := []
    results := []
    cursor := 0 }

/-- Adds one character to the query without ranking the results. -/
def extend (search : Search) (char : Char) : Search :=
  let longer := { search with typed := char :: search.typed }
  { longer with
    frames :=
      search.candidates.filter
          (fun index => isMatch longer.query (search.line index)) ::
        search.frames }

/-- Adds a text to the query. -/
def append (search : Search) (text : List Char) : Search :=
  if text.isEmpty then search else rank (text.foldl extend search)

/-- Takes the last character off the query. -/
def backspace (search : Search) : Search :=
  match search.typed with
  | [] => search
  | _ :: typed =>
    rank { search with typed, frames := search.frames.tail }

/-- The states that a search goes through, one for each time that it deletes
a character until `count` are deleted. -/
def backspaces : Nat → Search → List Search
  | 0, _ => []
  | count + 1, search =>
    search.backspace :: backspaces count search.backspace

/-- The number of leading characters that two texts share. -/
def commonLength : List Char → List Char → Nat
  | first :: firsts, second :: seconds =>
    if first = second then commonLength firsts seconds + 1 else 0
  | _, _ => 0

/-- The states in which results were ranked on the way to another query:
characters are deleted down to the common beginning, then the missing ones
are added at once. -/
def steps (search : Search) (text : List Char) : List Search :=
  let common := commonLength search.typed.reverse text
  let shortened := backspaces (search.typed.length - common) search
  let missing := text.drop common
  if missing.isEmpty then shortened
  else shortened ++ [(shortened.getLastD search).append missing]

/-- The search with another query. -/
def setQuery (search : Search) (text : List Char) : Search :=
  (search.steps text).getLastD search

/-- Moves the cursor up, from the first result to the last. -/
def up (search : Search) : Search :=
  match search.results.length with
  | 0 => search
  | count + 1 =>
    { search with cursor := (search.cursor + count) % (count + 1) }

/-- Moves the cursor down, from the last result to the first. -/
def down (search : Search) : Search :=
  match search.results.length with
  | 0 => search
  | count + 1 => { search with cursor := (search.cursor + 1) % (count + 1) }

/-- The line under the cursor. -/
def selection? (search : Search) : Option Nat :=
  search.results[search.cursor]?

/-- The log entry written each time that results are ranked. -/
def rankedEntry (search : Search) : LogEntry :=
  ⟨.debug, "fuzzy_search",
    "Query " ++ quote search.query ++
      s!": {search.candidates.length} candidates, " ++
      s!"{search.results.length} visible"⟩

end Search

end CrateShelf.Finder
