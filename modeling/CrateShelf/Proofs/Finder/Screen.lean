import CrateShelf.Finder.Screen
import CrateShelf.Proofs.Finder.Catalog

/-!
# The search screen while keys are pressed

A key that can be printed adds to the query and a backspace takes off from it;
any other key leaves the query and its results.  After each edit the results
are those of the running search, so they have to be those of a new one, and
the cursor is put back among them.

The cursor goes over all results, but only as many are drawn as the window has
rows for.

Main statements: whatever keys are pressed, the screen shows the results of the
query that was typed, as a new catalog of the same locations has them; a result
is opened exactly if there is one under the cursor; and this one is marked
exactly if its row is inside the window.
-/

namespace CrateShelf.Finder

/-! ## Keys -/

namespace Key

variable {key : Key}

/-- Whether a key edits the query. -/
def isEdit (key : Key) : Bool :=
  key.addition?.isSome || key.isBackspace

/-- A query after a key press. -/
def applyTo (query : List Char) (key : Key) : List Char :=
  match key.addition? with
  | some typed => query ++ typed.toList
  | none => if key.isBackspace then query.dropLast else query

/-- A key that can be printed has no other meaning. -/
theorem isPlain_of_addition?
    {typed : String}
    (adds : key.addition? = some typed) :
    key.isEscape = false ∧ key.isEnter = false ∧ key.isBackspace = false ∧
      key.isUp = false ∧ key.isDown = false := by
  cases key with
  | code number => cases adds
  | text other =>
      rw [addition?] at adds
      split at adds
      · rename_i printable
        have differs : ∀ command : String,
            command.toList.all Text.isPrintable = false →
              (other == command) = false := by
          rintro command unprintable
          rw [beq_eq_false_iff_ne]
          rintro rfl
          rw [printable] at unprintable
          cases unprintable
        refine ⟨differs _ (by decide), ?_, ?_, rfl, rfl⟩
        · rw [isEnter, differs _ (by decide), differs _ (by decide)]
          rfl
        · rw [isBackspace, differs _ (by decide), differs _ (by decide)]
          rfl
      · cases adds

/-- A backspace neither leaves nor opens. -/
theorem isBackspace_of_isEscape_or_isEnter
    (other : key.isEscape = true ∨ key.isEnter = true) :
    key.isBackspace = false := by
  cases key with
  | text typed =>
      simp only [isEscape, isEnter, Bool.or_eq_true, beq_iff_eq] at other
      rcases other with rfl | rfl | rfl
      · decide
      · decide
      · decide
  | code number =>
      simp only [isEscape, isEnter, Bool.or_eq_true, beq_iff_eq] at other
      rcases other with rfl | (rfl | rfl) | rfl
      · decide
      · decide
      · decide
      · decide

theorem isEscape_of_isEnter (isEnter : key.isEnter = true) :
    key.isEscape = false := by
  cases key with
  | text typed =>
      simp only [Key.isEnter, Bool.or_eq_true, beq_iff_eq] at isEnter
      rcases isEnter with rfl | rfl
      · decide
      · decide
  | code number =>
      simp only [Key.isEnter, Bool.or_eq_true, beq_iff_eq] at isEnter
      rcases isEnter with (rfl | rfl) | rfl
      · decide
      · decide
      · decide

end Key

namespace Screen

variable
    {limit : Int}
    {locations : List Location}
    {screen edited : Screen}
    {key : Key}

/-- The screen after some keys, pressed one after the other. -/
def pressAll (screen : Screen) (keys : List Key) : Screen :=
  keys.foldl (fun screen key => (screen.press key).2) screen

/-! ## Edits -/

theorem edited?_of_addition?
    {typed : String}
    (adds : key.addition? = some typed) :
    screen.edited? key =
      some { screen.withQuery (screen.query ++ typed) with cursor := 0 } := by
  obtain ⟨noEscape, noEnter, noBackspace, noUp, noDown⟩ :=
    Key.isPlain_of_addition? adds
  simp [edited?, noEscape, noEnter, noBackspace, noUp, noDown, adds]

theorem edited?_of_isBackspace (isBackspace : key.isBackspace = true) :
    screen.edited? key =
      if screen.query = "" then none
      else some (screen.withQuery (String.ofList screen.query.toList.dropLast)) := by
  have stays : (key.isEscape || key.isEnter) = false := by
    rw [Bool.eq_false_iff, ne_eq, Bool.or_eq_true]
    intro other
    have differs := Key.isBackspace_of_isEscape_or_isEnter other
    rw [isBackspace] at differs
    cases differs
  rw [edited?, stays, isBackspace]
  rfl

/-- Only a key that edits the query has the results refreshed. -/
theorem edited?_of_isEdit_eq_false (noEdit : key.isEdit = false) :
    screen.edited? key = none := by
  rw [Key.isEdit, Bool.or_eq_false_iff, Option.isSome_eq_false_iff,
    Option.isNone_iff_eq_none] at noEdit
  simp [edited?, noEdit.1, noEdit.2]

/-- The screen after an edit, or else as it is. -/
def editedOr (screen : Screen) (key : Key) : Screen :=
  (screen.edited? key).getD screen

theorem editedOr_eq (screen : Screen) (key : Key) :
    (screen.editedOr key).catalog = screen.catalog ∧
      (screen.editedOr key).query.toList =
        key.applyTo screen.query.toList := by
  rw [editedOr, Key.applyTo]
  cases adds : key.addition? with
  | some typed =>
      rw [edited?_of_addition? adds]
      exact ⟨rfl, String.toList_append⟩
  | none =>
      cases isBackspace : key.isBackspace with
      | true =>
          rw [edited?_of_isBackspace isBackspace]
          split
          · rename_i nothing
            refine ⟨rfl, ?_⟩
            rw [Option.getD_none, nothing]
            rfl
          · exact ⟨rfl, String.toList_ofList⟩
      | false =>
          have noEdit : key.isEdit = false := by
            rw [Key.isEdit, adds, isBackspace]
            rfl
          rw [edited?_of_isEdit_eq_false noEdit]
          exact ⟨rfl, rfl⟩

/-! ## Presses -/

theorem press_of_edited?
    (edits : screen.edited? key = some edited) :
    screen.press key = (.stay, edited.refresh) := by
  have stays : (key.isEscape || key.isEnter) = false := by
    rw [Bool.eq_false_iff]
    intro leaves
    rw [edited?, if_pos leaves] at edits
    cases edits
  rw [Bool.or_eq_false_iff] at stays
  simp only [press, stays.1, stays.2, edits, Bool.false_eq_true, if_false]

/-- A key that edits nothing at most moves the cursor. -/
theorem press_of_edited?_eq_none
    (unedited : screen.edited? key = none) :
    (screen.press key).2 = screen ∨ (screen.press key).2 = screen.up ∨
      (screen.press key).2 = screen.down := by
  unfold press
  rw [unedited]
  split
  · exact .inl rfl
  · split
    · exact .inl rfl
    · dsimp only
      split
      · exact .inr (.inl rfl)
      · split
        · exact .inr (.inr rfl)
        · exact .inl rfl

theorem press_of_isEnter (isEnter : key.isEnter = true) :
    screen.press key =
      (if screen.results.isEmpty then .stay else .openSelection, screen) := by
  rw [press, Key.isEscape_of_isEnter isEnter, isEnter]
  rfl

@[simp]
theorem results_down (screen : Screen) :
    screen.down.results = screen.results := by
  unfold down
  split
  · rfl
  · rfl

/-- What holds of a screen when no key is being handled. -/
structure Settled
    (limit : Int)
    (locations : List Location)
    (screen : Screen) : Prop where
  serves : Catalog.Serves limit locations screen.catalog
  results : screen.results = (screen.catalog.run screen.query).1
  cursor : screen.cursor = 0 ∨ screen.cursor < screen.results.length

/-- The results are those of the query, which the running search shows even
if it has just been asked for it. -/
theorem settled_refresh
    (serves : Catalog.Serves limit locations screen.catalog) :
    Settled limit locations screen.refresh where
  serves := serves.run screen.query
  results := serves.run_eq (serves.run screen.query) screen.query
  cursor := by
    simp only [refresh]
    omega

theorem Settled.moved
    (settled : Settled limit locations screen)
    (cursor : Nat)
    (within : cursor < screen.results.length) :
    Settled limit locations { screen with cursor } where
  serves := settled.serves
  results := settled.results
  cursor := .inr within

theorem Settled.up (settled : Settled limit locations screen) :
    Settled limit locations screen.up := by
  unfold Screen.up
  split
  · exact settled
  · rename_i count shape
    apply settled.moved
    rw [shape]
    exact Nat.mod_lt _ (Nat.succ_pos count)

theorem Settled.down (settled : Settled limit locations screen) :
    Settled limit locations screen.down := by
  unfold Screen.down
  split
  · exact settled
  · rename_i count shape
    apply settled.moved
    rw [shape]
    exact Nat.mod_lt _ (Nat.succ_pos count)

theorem Settled.press
    (settled : Settled limit locations screen)
    (key : Key) :
    Settled limit locations (screen.press key).2 := by
  cases edits : screen.edited? key with
  | some edited =>
      have sameCatalog := (screen.editedOr_eq key).1
      rw [editedOr, edits, Option.getD_some] at sameCatalog
      rw [press_of_edited? edits]
      apply settled_refresh
      rw [sameCatalog]
      exact settled.serves
  | none =>
      rcases press_of_edited?_eq_none edits with same | same | same
      · rw [same]
        exact settled
      · rw [same]
        exact settled.up
      · rw [same]
        exact settled.down

theorem Settled.pressAll
    (settled : Settled limit locations screen)
    (keys : List Key) :
    Settled limit locations (screen.pressAll keys) := by
  induction keys generalizing screen with
  | nil => exact settled
  | cons key keys inductionStep => exact inductionStep (settled.press key)

/-- A result shows the location with its number. -/
theorem Settled.exists_location
    {hit : Hit}
    (settled : Settled limit locations screen)
    (member : hit ∈ screen.results) :
    ∃ location, screen.catalog.locations[hit.index]? = some location ∧
      hit.display = location.display := by
  rw [settled.results] at member
  obtain ⟨location, known, display⟩ := Catalog.exists_get?_of_mem_run member
  exact ⟨location, by simpa [Catalog.get?, Catalog.run] using known, display⟩

/-- The cursor is at a result that is a location, if there are results. -/
theorem Settled.selected?_isSome_iff
    (settled : Settled limit locations screen) :
    (∃ location ∈ locations, screen.selected? = some location) ↔
      screen.results ≠ [] := by
  constructor
  · rintro ⟨location, -, selected⟩ nothing
    rw [selected?, nothing] at selected
    cases selected
  · intro some_
    have within : screen.cursor < screen.results.length := by
      rcases settled.cursor with first | within
      · rw [first]
        exact List.length_pos_iff.2 some_
      · exact within
    obtain ⟨location, found, -⟩ :=
      settled.exists_location (List.getElem_mem within)
    refine ⟨location, ?_, ?_⟩
    · rw [← settled.serves.sameLocations]
      exact List.mem_of_getElem? found
    · rw [selected?, List.getElem?_eq_getElem within]
      exact found

/-- The row and the text of a call that shows a text in reverse. -/
def marked? : DrawCall → Option (Nat × String)
  | .write row _ text _ (some true) => some (row, text)
  | _ => none

/-- The rows that are shown in reverse, with their texts. -/
def markedRows (calls : List DrawCall) : List (Nat × String) :=
  calls.filterMap marked?

theorem markedRows_cons (call : DrawCall) (calls : List DrawCall) :
    markedRows (call :: calls) =
      (marked? call).toList ++ markedRows calls := by
  unfold markedRows
  cases shown : marked? call with
  | none => exact List.filterMap_cons_none shown
  | some row => exact List.filterMap_cons_some shown

theorem markedRows_append (calls others : List DrawCall) :
    markedRows (calls ++ others) = markedRows calls ++ markedRows others :=
  List.filterMap_append

/-- Below the row of the cursor, nothing is marked. -/
theorem markedRows_drawResults_of_lt
    {row : Nat}
    (screen : Screen)
    (width : Int)
    (hits : List Hit)
    (below : screen.cursor + 2 < row) :
    markedRows (screen.drawResults width row hits) = [] := by
  induction hits generalizing row with
  | nil => rfl
  | cons hit hits inductionStep =>
      have unmarked : (row == screen.cursor + 2) = false :=
        beq_eq_false_iff_ne.2 (Nat.ne_of_gt below)
      rw [drawResults, unmarked, markedRows_cons,
        inductionStep (Nat.lt_succ_of_lt below)]
      rfl

/-- The result that stands in the row of the cursor is marked, if there is
one. -/
theorem markedRows_drawResults
    {row above : Nat}
    (screen : Screen)
    (width : Int)
    (hits : List Hit)
    (reaches : row + above = screen.cursor + 2) :
    markedRows (screen.drawResults width row hits) =
      (hits[above]?.map fun hit =>
        (screen.cursor + 2, hit.display)).toList := by
  induction hits generalizing row above with
  | nil => rfl
  | cons hit hits inductionStep =>
      cases above with
      | zero =>
          obtain rfl : row = screen.cursor + 2 := reaches
          rw [drawResults, beq_self_eq_true, markedRows_cons,
            screen.markedRows_drawResults_of_lt width hits
              (Nat.lt_succ_self _)]
          rfl
      | succ above =>
          have unmarked : (row == screen.cursor + 2) = false := by
            rw [beq_eq_false_iff_ne]
            omega
          have further : row + 1 + above = screen.cursor + 2 := by omega
          rw [drawResults, unmarked, markedRows_cons, inductionStep further]
          rfl

/-- The result under the cursor is marked if its row is inside the window, and
nothing else ever is. -/
theorem markedRows_draw (screen : Screen) (height width : Int) :
    markedRows (screen.draw height width) =
      if (screen.cursor : Int) + 2 < height then
        (screen.results[screen.cursor]?.map fun hit =>
          (screen.cursor + 2, hit.display)).toList
      else [] := by
  have shown := screen.markedRows_drawResults width
    (screen.results.take (height - 2).toNat) (Nat.add_comm 2 screen.cursor)
  have others : ∀ column,
      markedRows [.moveTo 0 column] = [] := fun _ => rfl
  rw [draw, List.cons_append, markedRows_cons, markedRows_append, shown,
    others, List.append_nil, List.getElem?_take]
  by_cases inside : (screen.cursor : Int) + 2 < height
  · have fits : screen.cursor < (height - 2).toNat := by omega
    rw [if_pos fits, if_pos inside]
    rfl
  · have cut : ¬ screen.cursor < (height - 2).toNat := by omega
    rw [if_neg cut, if_neg inside]
    rfl

/-- The downward arrow only moves the cursor. -/
theorem press_down (screen : Screen) :
    screen.press (.code 258) = (.stay, screen.down) :=
  rfl

/-- The downward arrow moves the cursor on, from the last result to the
first. -/
theorem pressAll_down
    (within : screen.cursor < screen.results.length)
    (count : Nat) :
    (screen.pressAll (List.replicate count (.code 258))).results =
        screen.results ∧
      (screen.pressAll (List.replicate count (.code 258))).cursor =
        (screen.cursor + count) % screen.results.length := by
  induction count generalizing screen with
  | zero => exact ⟨rfl, (Nat.mod_eq_of_lt within).symm⟩
  | succ count inductionStep =>
      have moved : screen.down.cursor =
          (screen.cursor + 1) % screen.results.length := by
        unfold down
        split
        · omega
        · rename_i shape
          rw [shape]
      have among : screen.down.cursor < screen.down.results.length := by
        rw [moved, results_down]
        exact Nat.mod_lt _ (Nat.zero_lt_of_lt within)
      have others := inductionStep among
      rw [results_down, moved, Nat.mod_add_mod, Nat.add_assoc,
        Nat.add_comm 1] at others
      rw [List.replicate_succ, pressAll, List.foldl_cons, press_down]
      exact others

/-- A row is marked wherever the cursor is moved exactly if all results fit. -/
theorem forall_markedRows_ne_nil_iff
    (within : screen.cursor < screen.results.length)
    (height width : Int) :
    (∀ count, markedRows
      ((screen.pressAll (List.replicate count (.code 258))).draw
        height width) ≠ []) ↔
      (screen.results.length : Int) + 2 ≤ height := by
  constructor
  · intro always
    -- The cursor is moved to the last result.
    have last := always (screen.results.length - 1 - screen.cursor)
    obtain ⟨-, cursor⟩ := pressAll_down within
      (screen.results.length - 1 - screen.cursor)
    rw [Nat.mod_eq_of_lt (by omega)] at cursor
    rw [markedRows_draw] at last
    split at last
    · omega
    · exact absurd rfl last
  · intro fits count
    obtain ⟨results, cursor⟩ := pressAll_down within count
    have among := Nat.mod_lt (screen.cursor + count)
      (Nat.zero_lt_of_lt within)
    rw [← cursor] at among
    rw [markedRows_draw, if_pos (by omega), results,
      List.getElem?_eq_getElem among]
    exact List.cons_ne_nil _ _

/-- A selected location is shown by the result under the cursor. -/
theorem Settled.exists_hit_of_selected?
    {location : Location}
    (settled : Settled limit locations screen)
    (selected : screen.selected? = some location) :
    ∃ hit, screen.results[screen.cursor]? = some hit ∧
      hit.display = location.display := by
  obtain ⟨hit, under, found⟩ := Option.bind_eq_some_iff.1 selected
  obtain ⟨shown, known, display⟩ :=
    settled.exists_location (List.mem_of_getElem? under)
  rw [found] at known
  cases known
  exact ⟨hit, under, display⟩

/--
Whatever was done with a catalog before, and whatever keys are pressed: without
results nothing is selected and no row is ever marked.  Otherwise a location is
selected and is what can be opened; in a window that has the row of the cursor
this row alone is marked, with the location in it, and in any other window no
row is.  So a row stays marked, however far the cursor is moved, exactly in the
windows that have room for all results.
-/
theorem markedRows_draw_and_fits_iff
    (limit : Int)
    (operations : List Catalog.Operation)
    (keys : List Key) :
    let catalog := (Catalog.empty limit).performAll operations
    let screen := (start catalog).pressAll keys
    (screen.results = [] ∧ screen.selected? = none ∧
      ∀ height width, markedRows (screen.draw height width) = []) ∨
    ∃ location ∈ catalog.locations, screen.selected? = some location ∧
      (∀ key, key.isEnter = false ∨
        screen.press key = (.openSelection, screen)) ∧
      ∀ height width,
        markedRows (screen.draw height width) =
            (if (screen.cursor : Int) + 2 < height then
              [(screen.cursor + 2, location.display)]
            else []) ∧
          ((∀ count, markedRows
            ((screen.pressAll (List.replicate count (.code 258))).draw
              height width) ≠ []) ↔
            (screen.results.length : Int) + 2 ≤ height) := by
  intro catalog screen
  have serves := Catalog.serves_performAll limit operations
  have settled :
      Settled limit (Catalog.registered operations).eraseDups screen :=
    (settled_refresh serves).pressAll keys
  have sameLocations :
      catalog.locations = (Catalog.registered operations).eraseDups :=
    serves.sameLocations
  by_cases some_ : screen.results = []
  · refine .inl ⟨some_, ?_, fun height width => ?_⟩
    · rw [selected?, some_]
      rfl
    · rw [markedRows_draw, some_]
      exact ite_self _
  · obtain ⟨location, known, selected⟩ :=
      settled.selected?_isSome_iff.2 some_
    obtain ⟨hit, under, display⟩ := settled.exists_hit_of_selected? selected
    have within : screen.cursor < screen.results.length :=
      (List.getElem?_eq_some_iff.1 under).1
    refine .inr ⟨location, sameLocations ▸ known, selected,
      fun key => ?_, fun height width => ⟨?_, ?_⟩⟩
    · cases isEnter : key.isEnter with
      | false => exact .inl rfl
      | true =>
          rw [press_of_isEnter isEnter, List.isEmpty_eq_false_iff.2 some_]
          exact .inr rfl
    · rw [markedRows_draw, under, ← display]
      rfl
    · exact forall_markedRows_ne_nil_iff within height width

/-- Two structs of a crate. -/
def twoStructs : List Location :=
  [ ⟨⟨"krate", "1.0.0"⟩, ⟨["krate", "A"]⟩, "A", .struct, ""⟩,
    ⟨⟨"krate", "1.0.0"⟩, ⟨["krate", "B"]⟩, "B", .struct, ""⟩ ]

/-- A selected location is not marked in every window with a row for
results: there is one row for two of them. -/
theorem not_always_marked :
    ¬ ∀ (limit : Int) (operations : List Catalog.Operation)
        (keys : List Key) (height width : Int),
      let catalog := (Catalog.empty limit).performAll operations
      let screen := (start catalog).pressAll keys
      screen.results ≠ [] → 3 ≤ height →
        ∃ row location, screen.selected? = some location ∧
          markedRows (screen.draw height width) =
            [(row, location.display)] := by
  intro claimed
  let catalog := (Catalog.empty 40).performAll [.register twoStructs]
  have two : (start catalog).results.length = 2 :=
    ((Catalog.serves_performAll 40 [.register twoStructs]).length_run
      "").trans (by
        rw [show "".toList = [] from rfl, survivors_nil]
        decide)
  have within : (start catalog).cursor < (start catalog).results.length := by
    rw [two]
    exact Nat.lt_of_le_of_lt (Nat.min_le_left _ _) Nat.two_pos
  obtain ⟨results, cursor⟩ := pressAll_down within 1
  have first : (start catalog).cursor = 0 := Nat.zero_min _
  rw [first, two] at cursor
  obtain ⟨row, location, -, marked⟩ :=
    claimed 40 [.register twoStructs] (List.replicate 1 (.code 258)) 3 40
      (by
        rw [results, ← List.length_pos_iff, two]
        exact Nat.two_pos)
      (by decide)
  rw [markedRows_draw, if_neg (by rw [cursor]; decide)] at marked
  cases marked

end Screen

end CrateShelf.Finder
