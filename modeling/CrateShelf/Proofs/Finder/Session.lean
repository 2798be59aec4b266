import CrateShelf.Finder.Search

/-!
# Search sessions

A session starts with an empty query and goes on by editing the query and
moving the cursor.  Whatever has been done, there is one frame for every
beginning of the query, which holds the lines that match this beginning and
all shorter ones, and the visible results are those of the topmost frame.

Main statement: a session is in the state of a new search to which its query
was added at once, apart from the cursor, which is at the first result or at
another one.
-/

namespace CrateShelf.Finder

/-- The numbers of the lines that match every beginning of a query, in
order. -/
def survivors (lines : List String) (query : List Char) : List Nat :=
  (List.range lines.length).filter fun index =>
    decide (∀ count ≤ query.length,
      isMatch (String.ofList (query.take count)) (lines[index]?.getD "") =
        true)

/-- An empty query matches every line. -/
@[simp]
theorem isMatch_empty (line : String) :
    isMatch "" line = true := by
  simp [isMatch, score?]

@[simp]
theorem survivors_nil (lines : List String) :
    survivors lines [] = List.range lines.length := by
  simp [survivors]

/-- With one more character, the lines are left that match the whole query
too. -/
theorem survivors_concat
    (lines : List String)
    (query : List Char)
    (char : Char) :
    survivors lines (query ++ [char]) =
      (survivors lines query).filter fun index =>
        isMatch (String.ofList (query ++ [char]))
          (lines[index]?.getD "") := by
  have everything :
      (query ++ [char]).take (query.length + 1) = query ++ [char] :=
    List.take_of_length_le (by simp)
  simp only [survivors, List.filter_filter]
  apply List.filter_congr
  intro index _
  rw [Bool.eq_iff_iff]
  simp only [Bool.and_eq_true, decide_eq_true_eq, List.length_append,
    List.length_singleton]
  constructor
  · intro all
    constructor
    · simpa only [everything] using all (query.length + 1) (Nat.le_refl _)
    · intro count least
      simpa [List.take_append_of_le_length least] using
        all count (Nat.le_succ_of_le least)
  · rintro ⟨whole, shorter⟩ count least
    rcases Nat.le_or_eq_of_le_succ least with less | equal
    · rw [List.take_append_of_le_length less]
      exact shorter count less
    · rw [equal, everything]
      exact whole

namespace Search

/-- The frames from the bottom up. -/
def stack (search : Search) : List (List Nat) :=
  search.bottom :: search.frames.reverse

/-! ## Operations -/

/-- What can be done in a session. -/
inductive Operation where
  | append (text : List Char)
  | backspace
  | setQuery (text : List Char)
  | up
  | down
deriving DecidableEq, Repr

/-- The search after an operation. -/
def perform (search : Search) : Operation → Search
  | .append text => search.append text
  | .backspace => search.backspace
  | .setQuery text => search.setQuery text
  | .up => search.up
  | .down => search.down

/-- The search after some operations, one after the other. -/
def run (search : Search) (operations : List Operation) : Search :=
  operations.foldl perform search

/-! ## The state of a session -/

/-- The frames above the bottom one for a query, its last character first. -/
def framesFor (lines : List String) : List Char → List (List Nat)
  | [] => []
  | char :: typed =>
    survivors lines (char :: typed).reverse :: framesFor lines typed

@[simp]
theorem length_framesFor (lines : List String) (typed : List Char) :
    (framesFor lines typed).length = typed.length := by
  induction typed with
  | nil => rfl
  | cons char typed inductionStep =>
      simp only [framesFor, List.length_cons, inductionStep]

/-- What holds of the lines, the query and the frames of a session. -/
structure Stacked
    (lines : List String)
    (limit : Int)
    (search : Search) : Prop where
  sameLines : search.lines = lines.toArray
  sameLimit : search.limit = limit
  bottom : search.bottom = List.range lines.length
  frames : search.frames = framesFor lines search.typed

/-- What holds of a session when nothing is being done. -/
structure Settled
    (lines : List String)
    (limit : Int)
    (search : Search) : Prop extends Stacked lines limit search where
  results : search.results = search.ranking.lines
  cursor : search.cursor = 0 ∨ search.cursor < search.results.length

variable
    {lines : List String}
    {limit : Int}
    {search : Search}

/-- The topmost frame holds the lines that match every beginning of the
query. -/
theorem Stacked.candidates_eq (stacked : Stacked lines limit search) :
    search.candidates = survivors lines search.typed.reverse := by
  rw [candidates, stacked.frames, stacked.bottom]
  cases search.typed with
  | nil => simp [framesFor]
  | cons char typed => rfl

theorem Stacked.line_eq
    (stacked : Stacked lines limit search)
    (index : Nat) :
    search.line index = lines[index]?.getD "" := by
  simp [line, stacked.sameLines]

/-- Ranking leaves everything but the results and the cursor. -/
theorem Stacked.settled_rank (stacked : Stacked lines limit search) :
    Settled lines limit search.rank where
  sameLines := stacked.sameLines
  sameLimit := stacked.sameLimit
  bottom := stacked.bottom
  frames := stacked.frames
  results := rfl
  cursor := by
    simp only [rank]
    omega

/-! ## One operation -/

theorem settled_start (lines : List String) (limit : Int) :
    Settled lines limit (start lines limit) := by
  apply Stacked.settled_rank
  exact ⟨rfl, rfl, rfl, rfl⟩

/-- A character more makes a frame more. -/
theorem Stacked.extend
    (stacked : Stacked lines limit search)
    (char : Char) :
    Stacked lines limit (search.extend char) where
  sameLines := stacked.sameLines
  sameLimit := stacked.sameLimit
  bottom := stacked.bottom
  frames := by
    have top := survivors_concat lines search.typed.reverse char
    simp only [Search.extend, framesFor, stacked.frames, stacked.candidates_eq,
      List.reverse_cons, top, query, List.cons.injEq, and_true]
    apply List.filter_congr
    intro index _
    rw [stacked.line_eq]

theorem Stacked.foldl_extend
    (stacked : Stacked lines limit search)
    (text : List Char) :
    Stacked lines limit (text.foldl Search.extend search) := by
  induction text generalizing search with
  | nil => exact stacked
  | cons char text inductionStep =>
      exact inductionStep (stacked.extend char)

theorem Settled.append
    (settled : Settled lines limit search)
    (text : List Char) :
    Settled lines limit (search.append text) := by
  unfold Search.append
  split
  · exact settled
  · exact (settled.foldl_extend text).settled_rank

/-- A character less uncovers the frame below. -/
theorem Settled.backspace (settled : Settled lines limit search) :
    Settled lines limit search.backspace := by
  unfold Search.backspace
  split
  · exact settled
  · rename_i char typed shape
    have frames := settled.frames
    apply Stacked.settled_rank
    constructor
    · exact settled.sameLines
    · exact settled.sameLimit
    · exact settled.bottom
    · simp only [frames, shape, framesFor, List.tail_cons]

theorem typed_foldl_extend (search : Search) (text : List Char) :
    (text.foldl Search.extend search).typed =
      text.reverse ++ search.typed := by
  induction text generalizing search with
  | nil => rfl
  | cons char text inductionStep =>
      simp [inductionStep, Search.extend]

@[simp]
theorem typed_append (search : Search) (text : List Char) :
    (search.append text).typed = text.reverse ++ search.typed := by
  unfold Search.append
  split
  · rename_i nothing
    simp [List.isEmpty_iff.1 nothing]
  · exact typed_foldl_extend search text

@[simp]
theorem typed_backspace (search : Search) :
    search.backspace.typed = search.typed.tail := by
  unfold Search.backspace
  split
  · rename_i nothing
    simp [nothing]
  · rename_i char typed shape
    simp [rank, shape]

/-! ## Another query -/

/-- The search after some characters have been taken off the query. -/
def shorten (count : Nat) (search : Search) : Search :=
  (backspaces count search).getLastD search

theorem shorten_succ (count : Nat) (search : Search) :
    shorten (count + 1) search = shorten count search.backspace := by
  rw [shorten, backspaces, List.getLastD_cons, shorten]

/-- Another query is reached by taking characters off and adding others. -/
theorem setQuery_eq (search : Search) (text : List Char) :
    search.setQuery text =
      (shorten
          (search.typed.length - commonLength search.typed.reverse text)
          search).append
        (text.drop (commonLength search.typed.reverse text)) := by
  simp only [setQuery, steps]
  split
  · rename_i nothing
    simp only [append, nothing, if_true, shorten]
  · simp [shorten]

theorem Settled.shorten
    (settled : Settled lines limit search)
    (count : Nat) :
    Settled lines limit (shorten count search) := by
  induction count generalizing search with
  | zero => exact settled
  | succ count inductionStep =>
      rw [shorten_succ]
      exact inductionStep settled.backspace

@[simp]
theorem typed_shorten (count : Nat) (search : Search) :
    (shorten count search).typed = search.typed.drop count := by
  induction count generalizing search with
  | zero => rfl
  | succ count inductionStep =>
      rw [shorten_succ, inductionStep, typed_backspace, List.drop_tail]

theorem commonLength_le (first second : List Char) :
    commonLength first second ≤ first.length := by
  fun_induction commonLength first second with
  | case1 char firsts seconds inductionStep =>
      simpa using inductionStep
  | case2 => simp
  | case3 => simp

/-- Two texts share as many leading characters as are counted. -/
theorem take_commonLength (first second : List Char) :
    first.take (commonLength first second) =
      second.take (commonLength first second) := by
  fun_induction commonLength first second with
  | case1 char firsts seconds inductionStep =>
      simpa using inductionStep
  | case2 => rfl
  | case3 => rfl

/-- Whatever the query was, it ends as the one that is wanted. -/
@[simp]
theorem typed_setQuery (search : Search) (text : List Char) :
    (search.setQuery text).typed = text.reverse := by
  have shared := take_commonLength search.typed.reverse text
  have least := commonLength_le search.typed.reverse text
  rw [List.length_reverse] at least
  rw [List.take_reverse] at shared
  have kept :
      search.typed.drop
          (search.typed.length -
            commonLength search.typed.reverse text) =
        (text.take (commonLength search.typed.reverse text)).reverse := by
    rw [← shared, List.reverse_reverse]
  rw [setQuery_eq, typed_append, typed_shorten, kept,
    ← List.reverse_append, List.take_append_drop]

theorem Settled.setQuery
    (settled : Settled lines limit search)
    (text : List Char) :
    Settled lines limit (search.setQuery text) := by
  rw [setQuery_eq]
  exact (settled.shorten _).append _

/-! ## The cursor -/

/-- The cursor may be put at any of the results. -/
theorem Settled.moved
    (settled : Settled lines limit search)
    (cursor : Nat)
    (within : cursor < search.results.length) :
    Settled lines limit { search with cursor } where
  sameLines := settled.sameLines
  sameLimit := settled.sameLimit
  bottom := settled.bottom
  frames := settled.frames
  results := settled.results
  cursor := Or.inr within

theorem Settled.up (settled : Settled lines limit search) :
    Settled lines limit search.up := by
  unfold Search.up
  split
  · exact settled
  · rename_i count shape
    apply settled.moved
    rw [shape]
    exact Nat.mod_lt _ (Nat.succ_pos count)

theorem Settled.down (settled : Settled lines limit search) :
    Settled lines limit search.down := by
  unfold Search.down
  split
  · exact settled
  · rename_i count shape
    apply settled.moved
    rw [shape]
    exact Nat.mod_lt _ (Nat.succ_pos count)

/-! ## Whole sessions -/

/-- Every operation keeps a session settled. -/
theorem Settled.perform
    (settled : Settled lines limit search)
    (operation : Operation) :
    Settled lines limit (search.perform operation) := by
  cases operation with
  | append text => exact settled.append text
  | backspace => exact settled.backspace
  | setQuery text => exact settled.setQuery text
  | up => exact settled.up
  | down => exact settled.down

theorem Settled.run
    (settled : Settled lines limit search)
    (operations : List Operation) :
    Settled lines limit (search.run operations) := by
  induction operations generalizing search with
  | nil => exact settled
  | cons operation operations inductionStep =>
      exact inductionStep (settled.perform operation)

/-- Counted from the bottom, the frames belong to the growing beginnings of
the query. -/
theorem Stacked.stack_eq (stacked : Stacked lines limit search) :
    search.stack =
      (List.range (search.typed.length + 1)).map fun count =>
        survivors lines (search.typed.reverse.take count) := by
  have frames :
      ∀ typed : List Char,
        List.range lines.length :: (framesFor lines typed).reverse =
          (List.range (typed.length + 1)).map fun count =>
            survivors lines (typed.reverse.take count) := by
    intro typed
    induction typed with
    | nil => simp [framesFor]
    | cons char typed inductionStep =>
        rw [List.length_cons, List.range_succ, List.map_append, framesFor,
          List.reverse_cons, ← List.cons_append, inductionStep]
        congr 1
        · apply List.map_congr_left
          intro count member
          have least : count ≤ typed.reverse.length := by
            rw [List.length_reverse]
            exact Nat.lt_succ_iff.1 (List.mem_range.1 member)
          rw [List.reverse_cons, List.take_append_of_le_length least]
        · rw [List.map_singleton, List.take_of_length_le (by simp)]
  rw [stack, stacked.bottom, stacked.frames]
  exact frames search.typed

/-- Settled searches with the same query have the same candidates and
results. -/
theorem Settled.agree
    {other : Search}
    (settled : Settled lines limit search)
    (otherSettled : Settled lines limit other)
    (same : search.typed = other.typed) :
    search.query = other.query ∧
      search.candidates = other.candidates ∧
      search.results = other.results := by
  have query : search.query = other.query := by
    rw [Search.query, Search.query, same]
  have candidates : search.candidates = other.candidates := by
    rw [settled.candidates_eq, otherSettled.candidates_eq, same]
  have ranking : search.ranking = other.ranking := by
    simp only [Search.ranking, candidates, query, settled.line_eq,
      otherSettled.line_eq, settled.sameLimit, otherSettled.sameLimit]
  refine ⟨query, candidates, ?_⟩
  rw [settled.results, otherSettled.results, ranking]

/-- The cursor of a settled search is at a result if there is any. -/
theorem Settled.selection (settled : Settled lines limit search) :
    search.results = [] ∨
      ∃ index ∈ search.results, search.selection? = some index := by
  cases shape : search.results with
  | nil => exact Or.inl rfl
  | cons first others =>
      have within : search.cursor < search.results.length := by
        rcases settled.cursor with first | within
        · rw [first, shape]
          exact Nat.succ_pos _
        · exact within
      refine Or.inr ⟨search.results[search.cursor], ?_, ?_⟩
      · rw [← shape]
        exact List.getElem_mem within
      · exact List.getElem?_eq_getElem within

/--
After any operations there is one frame for each beginning of the query, the
lines that match it and all shorter ones; query, candidates and results are
those of a new search to which the query was added at once; any other query
can be set; and the cursor is at a result, unless there are none.
-/
theorem run_start
    (lines : List String)
    (limit : Int)
    (operations : List Operation) :
    let search := (start lines limit).run operations
    let fresh := (start lines limit).append search.query.toList
    search.stack.length = search.query.toList.length + 1 ∧
      (∀ count ≤ search.query.toList.length,
        search.stack[count]? =
          some (survivors lines (search.query.toList.take count))) ∧
      (search.query = fresh.query ∧
        search.candidates = fresh.candidates ∧
        search.results = fresh.results) ∧
      (∀ text, (search.setQuery text).query = String.ofList text) ∧
      (search.cursor = 0 ∨ search.cursor < search.results.length) ∧
      (search.results = [] ∨
        ∃ index ∈ search.results, search.selection? = some index) := by
  intro search fresh
  have settled : Settled lines limit search :=
    (settled_start lines limit).run operations
  have freshSettled : Settled lines limit fresh :=
    (settled_start lines limit).append _
  have characters : search.query.toList = search.typed.reverse := by
    simp [query]
  have same : search.typed = fresh.typed := by
    simp [fresh, characters, start, rank]
  have stack := settled.stack_eq
  refine ⟨?_, ?_, settled.agree freshSettled same, ?_, settled.cursor,
    settled.selection⟩
  · simp [stack, characters]
  · intro count least
    rw [characters, List.length_reverse] at least
    have within : count < search.typed.length + 1 :=
      Nat.lt_succ_iff.2 least
    simp [stack, characters, within]
  · intro text
    simp [query]

end Search

end CrateShelf.Finder
