import CrateShelf.Proofs.Finder.Matching
import Mathlib.Data.Nat.Basic
import Mathlib.Order.Basic

/-!
# The shortest window

A window of a line holds a query if leaving out characters of the stretch
gives the query.  From each occurrence of the query's first character on, the
other characters are met as early as possible; so no window that starts there
is shorter.  A window that starts elsewhere holds a shorter one that starts
with this character.

Main statement: the window found is the first of the shortest ones that hold
the query, and none is found exactly if the query cannot be found in the line.
-/

namespace CrateShelf.Finder

variable
    {first : Char}
    {query text rest : List Char}
    {count other offset : Nat}

/-! ## Characters met as early as possible -/

theorem sublist_take_of_reach (reached : reach query text = some count) :
    query.Sublist (text.take count) := by
  induction text generalizing query count with
  | nil =>
      cases query with
      | nil => exact List.nil_sublist _
      | cons wanted query => cases reached
  | cons char text inductionStep =>
      cases query with
      | nil => exact List.nil_sublist _
      | cons wanted query =>
          rw [reach] at reached
          obtain ⟨inner, found, rfl⟩ := Option.map_eq_some_iff.1 reached
          rw [List.take_succ_cons]
          split at found
          · rename_i same
            rw [same, List.cons_sublist_cons]
            exact inductionStep found
          · exact (inductionStep found).cons char

/-- Fewer characters are not enough. -/
theorem le_of_sublist_take
    (reached : reach query text = some count)
    (found : query.Sublist (text.take other)) :
    count ≤ other := by
  induction text generalizing query count other with
  | nil =>
      cases query with
      | nil => cases reached; exact Nat.zero_le _
      | cons wanted query => cases reached
  | cons char text inductionStep =>
      cases query with
      | nil =>
          rw [reach_nil] at reached
          cases reached
          exact Nat.zero_le _
      | cons wanted query =>
          rw [reach] at reached
          obtain ⟨inner, met, rfl⟩ := Option.map_eq_some_iff.1 reached
          cases other with
          | zero => cases found
          | succ other =>
              rw [List.take_succ_cons] at found
              apply Nat.succ_le_succ
              split at met
              · rename_i same
                rw [same, List.cons_sublist_cons] at found
                exact inductionStep met found
              · rename_i different
                rcases List.sublist_cons_iff.1 found with
                  later | ⟨_, starts, -⟩
                · exact inductionStep met later
                · exact absurd (List.cons.inj starts).1 different

/-! ## Windows that hold a query -/

namespace Window

variable {window : Window}

/-- The stretch of a line that a window shows. -/
def shown (window : Window) (text : List Char) : List Char :=
  (text.drop window.start).take window.size

/-- Whether a window lies in a line and holds a query: leaving out characters
of what it shows gives the query. -/
structure Holds (window : Window) (query text : List Char) : Prop where
  ordered : window.start ≤ window.stop
  inside : window.stop ≤ text.length
  found : query.Sublist (window.shown text)

/-- Whether a window is the first of the shortest ones that hold a query. -/
structure IsBest (window : Window) (query text : List Char) : Prop extends
    Holds window query text where
  head : text[window.start]? = query.head?
  shortest : ∀ other : Window, other.Holds query text →
    window.size ≤ other.size
  earliest : ∀ other : Window, other.Holds query text →
    other.size = window.size → window.start ≤ other.start

/-- Whether a window holds a query and starts with its first character. -/
structure Begins (first : Char) (query text : List Char)
    (window : Window) : Prop extends Holds window (first :: query) text where
  head : text[window.start]? = some first

theorem Holds.start_add_size (holds : window.Holds query text) :
    window.start + window.size = window.stop :=
  Nat.add_sub_cancel' holds.ordered

/-- What a window holds can be found in the rest of the line. -/
theorem Holds.sublist_drop (holds : window.Holds query text) :
    query.Sublist (text.drop window.start) :=
  holds.found.trans (List.take_sublist _ _)

/-- A query is held exactly if it can be found. -/
theorem exists_holds_iff :
    (∃ window : Window, window.Holds query text) ↔ query.Sublist text := by
  constructor
  · rintro ⟨window, holds⟩
    exact holds.sublist_drop.trans (List.drop_sublist _ _)
  · intro found
    refine ⟨⟨0, text.length⟩, Nat.zero_le _, Nat.le_refl _, ?_⟩
    simpa [shown, size] using found

/-- The window from an occurrence of the first character up to where the other
characters have been met. -/
theorem begins_of_reach
    (atOffset : text.drop offset = first :: rest)
    (reached : reach query rest = some count) :
    Begins first query text ⟨offset, offset + 1 + count⟩ := by
  have within := reach_le_length query rest count reached
  have length := congrArg List.length atOffset
  rw [List.length_drop, List.length_cons] at length
  have stretch : offset + 1 + count - offset = count + 1 := by omega
  refine ⟨⟨?_, ?_, ?_⟩, ?_⟩
  · show offset ≤ offset + 1 + count
    omega
  · show offset + 1 + count ≤ text.length
    omega
  · rw [shown, size, atOffset, stretch, List.take_succ_cons,
      List.cons_sublist_cons]
    exact sublist_take_of_reach reached
  · rw [← Nat.add_zero offset, ← List.getElem?_drop, atOffset]
    rfl

/-- A window that holds a query is not empty. -/
theorem Holds.size_pos (holds : window.Holds (first :: query) text) :
    0 < window.size := by
  have least := holds.found.length_le
  rw [shown, List.length_take, List.length_cons] at least
  omega

/-- What a window shows from an occurrence of the first character on. -/
theorem Begins.sublist_take
    (begins : Begins first query text window)
    (atStart : text.drop window.start = first :: rest) :
    query.Sublist (rest.take (window.size - 1)) := by
  have found := begins.found
  rw [shown, atStart, ← Nat.sub_one_add_one begins.size_pos.ne',
    List.take_succ_cons, List.cons_sublist_cons] at found
  exact found

/-- A window that starts with another character still holds the query without
it. -/
theorem Holds.tail
    (holds : window.Holds (first :: query) text)
    (starts : text[window.start]? ≠ some first) :
    Holds ⟨window.start + 1, window.stop⟩ (first :: query) text := by
  have positive := holds.size_pos
  have ordered := holds.start_add_size
  refine ⟨?_, holds.inside, ?_⟩
  · show window.start + 1 ≤ window.stop
    omega
  · have within : window.start < text.length := by
      have inside := holds.inside
      omega
    have found := holds.found
    rw [shown, ← Nat.sub_one_add_one positive.ne',
      List.drop_eq_getElem_cons within, List.take_succ_cons,
      List.sublist_cons_iff] at found
    have stretch : size ⟨window.start + 1, window.stop⟩ = window.size - 1 :=
      Nat.sub_add_eq window.stop window.start 1
    rw [shown, stretch]
    rcases found with later | ⟨_, same, -⟩
    · exact later
    · rw [List.getElem?_eq_getElem within, ← (List.cons.inj same).1] at starts
      exact absurd rfl starts

/-- In every window there is one that starts with the first character; if it
is another one, it is shorter. -/
theorem Holds.exists_begins (holds : window.Holds (first :: query) text) :
    ∃ inner : Window, Begins first query text inner ∧
      (inner = window ∨ inner.size < window.size) := by
  induction shape : window.size generalizing window with
  | zero => exact absurd holds.size_pos (shape ▸ Nat.lt_irrefl 0)
  | succ size inductionStep =>
      by_cases starts : text[window.start]? = some first
      · exact ⟨window, ⟨holds, starts⟩, Or.inl rfl⟩
      · have less : Window.size ⟨window.start + 1, window.stop⟩ = size := by
          rw [Window.size] at shape
          show window.stop - (window.start + 1) = size
          omega
        obtain ⟨inner, begins, same | shorter⟩ :=
          inductionStep (holds.tail starts) less
        · refine ⟨inner, begins, Or.inr ?_⟩
          rw [same, less]
          exact Nat.lt_succ_self size
        · exact ⟨inner, begins, Or.inr (shorter.trans (Nat.lt_succ_self _))⟩

/-! ## The first of the shortest windows -/

/-- Whether a window is shorter than another, or as short and not behind it. -/
def Precedes (window other : Window) : Prop :=
  window.size < other.size ∨
    window.size = other.size ∧ window.start ≤ other.start

theorem Precedes.trans
    {second third : Window}
    (before : window.Precedes second)
    (after : second.Precedes third) :
    window.Precedes third := by
  unfold Precedes at *
  omega

/-- Whether the first of the shortest windows of some kind has been chosen, or
none if there is none. -/
def IsChosen (among : Window → Prop) : Option Window → Prop
  | none => ∀ window, ¬ among window
  | some chosen => among chosen ∧ ∀ window, among window →
      chosen.Precedes window

theorem IsChosen.congr
    {among others : Window → Prop}
    {best : Option Window}
    (chosen : IsChosen among best)
    (same : ∀ window, among window ↔ others window) :
    IsChosen others best := by
  rwa [← funext fun window => propext (same window)]

/-- The choice is made anew when one window comes in that is the first of the
shortest ones behind those known. -/
theorem IsChosen.shorter
    {among : Window → Prop}
    {best : Option Window}
    (chosen : IsChosen (fun window => among window ∧ window.start < offset)
      best)
    (new : among window)
    (atOffset : window.start = offset)
    (least : ∀ other, among other → other.start = offset →
      window.size ≤ other.size) :
    IsChosen (fun window => among window ∧ window.start < offset + 1)
      (some (shorter best window)) := by
  have isNew : among window ∧ window.start < offset + 1 :=
    ⟨new, atOffset ▸ Nat.lt_succ_self _⟩
  -- A window that starts before the next character starts here or is known.
  have split : ∀ other, among other ∧ other.start < offset + 1 →
      window.Precedes other ∨ among other ∧ other.start < offset := by
    rintro other ⟨isAmong, before⟩
    rcases Nat.lt_or_eq_of_le (Nat.lt_succ_iff.1 before) with known | here
    · exact Or.inr ⟨isAmong, known⟩
    · have size := least other isAmong here
      rw [Precedes]
      omega
  cases best with
  | none =>
      refine ⟨isNew, fun other isAmong => ?_⟩
      exact (split other isAmong).resolve_right (chosen other)
  | some known =>
      obtain ⟨⟨isKnown, before⟩, first⟩ := chosen
      rw [Window.shorter]
      split_ifs with less
      · have precedes : window.Precedes known := Or.inl less
        refine ⟨isNew, fun other isAmong => ?_⟩
        rcases split other isAmong with here | earlier
        · exact here
        · exact precedes.trans (first other earlier)
      · have precedes : known.Precedes window := by
          rw [Precedes]
          omega
        refine ⟨⟨isKnown, before.trans (Nat.lt_succ_self _)⟩,
          fun other isAmong => ?_⟩
        rcases split other isAmong with here | earlier
        · exact precedes.trans here
        · exact first other earlier

end Window

/-- What is chosen in the rest of a line is chosen among all windows that
start with the first character. -/
theorem isChosen_windowFrom
    {best : Option Window}
    (atOffset : text.drop offset = rest)
    (chosen : Window.IsChosen
      (fun window => Window.Begins first query text window ∧
        window.start < offset) best) :
    Window.IsChosen (Window.Begins first query text)
      (windowFrom first query best offset rest) := by
  induction rest generalizing best offset with
  | nil =>
      refine chosen.congr fun window => and_iff_left_of_imp fun begins => ?_
      obtain ⟨within, -⟩ := List.getElem?_eq_some_iff.1 begins.head
      exact within.trans_le (List.drop_eq_nil_iff.1 atOffset)
  | cons char rest inductionStep =>
      have here : text[offset]? = some char := by
        rw [← Nat.add_zero offset, ← List.getElem?_drop, atOffset]
        rfl
      have next : text.drop (offset + 1) = rest := by
        rw [← List.drop_drop, atOffset, List.drop_one, List.tail_cons]
      rw [windowFrom]
      split_ifs with same
      · rw [same] at atOffset
        split
        · rename_i nothing
          -- Later windows would hold the other characters of the query.
          refine chosen.congr fun window => and_iff_left_of_imp fun begins => ?_
          by_contra later
          have found := begins.sublist_drop
          obtain ⟨distance, start⟩ :=
            Nat.exists_eq_add_of_le (Nat.not_lt.1 later)
          rw [start, ← List.drop_drop, atOffset] at found
          have others :=
            List.cons_sublist_cons.1 (found.trans (List.drop_sublist _ _))
          rw [← isSome_reach_iff, nothing] at others
          cases others
        · rename_i count reached
          refine inductionStep next
            (chosen.shorter (Window.begins_of_reach atOffset reached) rfl ?_)
          rintro other begins rfl
          have size := le_of_sublist_take reached
            (begins.sublist_take atOffset)
          have positive := begins.size_pos
          show other.start + 1 + count - other.start ≤ other.size
          omega
      · refine inductionStep next (chosen.congr fun window => ?_)
        refine and_congr_right fun begins => ?_
        have elsewhere : window.start ≠ offset := by
          rintro rfl
          rw [begins.head, Option.some.injEq] at here
          exact same here.symm
        omega

theorem isChosen_bestWindow (first : Char) (query text : List Char) :
    Window.IsChosen (Window.Begins first query text)
      (bestWindow first query text) :=
  isChosen_windowFrom rfl fun _ begins => absurd begins.2 (Nat.not_lt_zero _)

namespace Window

variable {window : Window}

/-- The first of the shortest windows that start with the first character is
the first of the shortest of all. -/
theorem IsChosen.isBest
    (chosen : IsChosen (Begins first query text) (some window)) :
    window.IsBest (first :: query) text := by
  obtain ⟨begins, least⟩ := chosen
  have precedes : ∀ other : Window, other.Holds (first :: query) text →
      window.Precedes other := by
    intro other holds
    obtain ⟨inner, innerBegins, same | shorter⟩ := holds.exists_begins
    · exact same ▸ least inner innerBegins
    · exact (least inner innerBegins).trans (Or.inl shorter)
  refine ⟨begins.toHolds, begins.head, ?_, ?_⟩
  · intro other holds
    rcases precedes other holds with less | ⟨same, -⟩
    · exact less.le
    · exact same.le
  · intro other holds sameSize
    rcases precedes other holds with less | ⟨-, before⟩
    · exact absurd sameSize less.ne'
    · exact before

/-- There is at most one first of the shortest windows. -/
theorem IsBest.eq
    {other : Window}
    (best : window.IsBest query text)
    (otherBest : other.IsBest query text) :
    window = other := by
  have size := Nat.le_antisymm (best.shortest other otherBest.toHolds)
    (otherBest.shortest window best.toHolds)
  have start := Nat.le_antisymm
    (best.earliest other otherBest.toHolds size.symm)
    (otherBest.earliest window best.toHolds size)
  have stop : window.stop = other.stop := by
    rw [← best.start_add_size, ← otherBest.start_add_size, start, size]
  cases window
  cases other
  cases start
  cases stop
  rfl

end Window

/--
A window is looked for unless the query is empty.  None is found exactly if
the query cannot be found in the line by leaving out characters; a window is
found exactly if it is the first of the shortest ones that hold the query, and
it starts with the query's first character.
-/
theorem bestWindow?_eq_iff (query text : List Char) :
    (bestWindow? query text = none ↔ query = []) ∧
      (bestWindow? query text = some none ↔
        query ≠ [] ∧ ¬ query.Sublist text) ∧
      ∀ window, bestWindow? query text = some (some window) ↔
        query ≠ [] ∧ window.IsBest query text := by
  cases query with
  | nil => simp [bestWindow?]
  | cons first query =>
      have chosen := isChosen_bestWindow first query text
      have found := isSome_bestWindow_iff first query text
      simp only [bestWindow?, reduceCtorEq, Option.some.injEq, ne_eq,
        not_false_eq_true, true_and]
      refine ⟨?_, fun window => ⟨fun best => ?_, fun best => ?_⟩⟩
      · rw [← found, Bool.not_eq_true, Option.isSome_eq_false_iff,
          Option.isNone_iff_eq_none]
      · rw [best] at chosen
        exact chosen.isBest
      · have any := Window.exists_holds_iff.1 ⟨window, best.toHolds⟩
        obtain ⟨known, isKnown⟩ := Option.isSome_iff_exists.1 (found.2 any)
        rw [isKnown] at chosen ⊢
        rw [chosen.isBest.eq best]

end CrateShelf.Finder
