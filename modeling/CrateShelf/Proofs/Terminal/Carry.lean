import CrateShelf.Proofs.Terminal.Styled
import Mathlib.Data.List.DropRight

/-!
# Lines that are shown alone

A terminal shows each visible character under the style codes that came since
the last reset, on whatever line they came.  Lines whose styles are taken up
again can be shown one by one, in any order and with others left out.

Main statement: taken alone, such a line shows its characters under the very
codes that they are under where the lines are shown in turn, and it leaves
nothing in force behind it.
-/

namespace CrateShelf.Terminal

variable
    {line : List Char}
    {before active : List (List Char)}

/-! ## What a terminal shows -/

/-- The codes since the last reset. -/
def sinceReset (codes : List (List Char)) : List (List Char) :=
  codes.rtakeWhile (· ≠ reset)

/-- The visible characters of pieces, each with the codes that it is shown
under if some codes came before. -/
def shownAfter (before : List (List Char)) :
    List Piece → List (Char × List (List Char))
  | [] => []
  | .code code :: rest => shownAfter (before ++ [code]) rest
  | .visible char :: rest =>
    (char, sinceReset before) :: shownAfter before rest

/-- What lines show one after the other if some codes came before. -/
def shownInTurn (before : List (List Char)) :
    List (List Char) → List (List (Char × List (List Char)))
  | [] => []
  | line :: rest =>
    shownAfter before (pieces line) ::
      shownInTurn (before ++ codesOf (pieces line)) rest

/-- What a line shows if nothing came before. -/
def shownAlone (line : List Char) : List (Char × List (List Char)) :=
  shownAfter [] (pieces line)

/-- The codes that a line leaves in force if nothing came before. -/
def leftOpen (line : List Char) : List (List Char) :=
  sinceReset (codesOf (pieces line))

/-! ## Codes in force -/

@[simp]
theorem sinceReset_nil : sinceReset [] = [] := rfl

theorem sinceReset_concat (codes : List (List Char)) (code : List Char) :
    sinceReset (codes ++ [code]) =
      if code = reset then [] else sinceReset codes ++ [code] := by
  rw [sinceReset, List.rtakeWhile_concat]
  by_cases isReset : code = reset
  · rw [if_pos isReset, if_neg (by simp [isReset])]
  · rw [if_neg isReset, if_pos (by simp [isReset])]
    rfl

@[simp]
theorem sinceReset_sinceReset (codes : List (List Char)) :
    sinceReset (sinceReset codes) = sinceReset codes :=
  List.rtakeWhile_idempotent _ codes

theorem mem_of_mem_sinceReset
    {code : List Char}
    {codes : List (List Char)}
    (member : code ∈ sinceReset codes) :
    code ∈ codes :=
  (List.rtakeWhile_suffix _ codes).subset member

/-- The codes in force are those since the last reset. -/
theorem activeAfter_sinceReset (before codes : List (List Char)) :
    activeAfter (sinceReset before) codes = sinceReset (before ++ codes) := by
  induction codes generalizing before with
  | nil => rw [List.append_nil]; rfl
  | cons code codes inductionStep =>
      rw [activeAfter, List.foldl_cons, ← sinceReset_concat, ← activeAfter,
        inductionStep, List.append_assoc, List.singleton_append]

/-- What came before the last reset makes no difference later. -/
theorem sinceReset_append (before codes : List (List Char)) :
    sinceReset (sinceReset before ++ codes) = sinceReset (before ++ codes) := by
  rw [← activeAfter_sinceReset, sinceReset_sinceReset, activeAfter_sinceReset]

/-! ## Pieces of a line -/

theorem codesOf_append (styled rest : List Piece) :
    codesOf (styled ++ rest) = codesOf styled ++ codesOf rest :=
  List.filterMap_append ..

@[simp]
theorem codesOf_map_code (codes : List (List Char)) :
    codesOf (codes.map .code) = codes := by
  rw [codesOf, List.filterMap_map]
  exact List.filterMap_some

theorem visibleOf_append (styled rest : List Piece) :
    visibleOf (styled ++ rest) = visibleOf styled ++ visibleOf rest :=
  List.filterMap_append ..

@[simp]
theorem visibleOf_map_code (codes : List (List Char)) :
    visibleOf (codes.map .code) = [] := by
  rw [visibleOf, List.filterMap_map, List.filterMap_eq_nil_iff]
  exact fun _ _ => rfl

theorem pieces_append_reset (text : List Char) :
    pieces (text ++ reset) = pieces text ++ [.code reset] := by
  have apart : AreApart text reset := by
    apply areApart_of_border
    right
    rintro _ ⟨⟩
    decide
  have alone := pieces_code_append isCode_reset []
  rw [List.append_nil, pieces_nil] at alone
  rw [pieces_append apart, alone]

theorem pieces_flatten_append
    (codes : ∀ code ∈ active, IsCode code)
    (text : List Char) :
    pieces (active.flatten ++ text) = active.map .code ++ pieces text := by
  induction active with
  | nil => rfl
  | cons code active inductionStep =>
      rw [List.forall_mem_cons] at codes
      rw [List.flatten_cons, List.append_assoc, pieces_code_append codes.1,
        inductionStep codes.2, List.map_cons, List.cons_append]

/-! ## What pieces show -/

/-- What came before the last reset does not show. -/
theorem shownAfter_congr
    {other : List (List Char)}
    (same : sinceReset before = sinceReset other)
    (styled : List Piece) :
    shownAfter before styled = shownAfter other styled := by
  induction styled generalizing before other with
  | nil => rfl
  | cons piece styled inductionStep =>
      cases piece with
      | code code =>
          refine inductionStep ?_
          rw [sinceReset_concat, sinceReset_concat, same]
      | visible char =>
          rw [shownAfter, shownAfter, same, inductionStep same]

theorem shownAfter_map_code_append
    (before codes : List (List Char))
    (styled : List Piece) :
    shownAfter before (codes.map .code ++ styled) =
      shownAfter (before ++ codes) styled := by
  induction codes generalizing before with
  | nil => rw [List.append_nil]; rfl
  | cons code codes inductionStep =>
      rw [List.map_cons, List.cons_append, shownAfter, inductionStep,
        List.append_assoc, List.singleton_append]

/-- A code at the end does not show. -/
theorem shownAfter_concat_code
    (before : List (List Char))
    (styled : List Piece)
    (code : List Char) :
    shownAfter before (styled ++ [.code code]) = shownAfter before styled := by
  induction styled generalizing before with
  | nil => rfl
  | cons piece styled inductionStep =>
      cases piece with
      | code other => exact inductionStep _
      | visible char =>
          rw [List.cons_append, shownAfter, shownAfter, inductionStep]

/-! ## One line -/

/-- A line that takes up some codes and ends what it leaves in force. -/
def takeUp (active : List (List Char)) (line : List Char) : List Char :=
  let opened := active.flatten ++ line
  if leftOpen opened = [] then opened else opened ++ reset

theorem carryFrom_cons (active rest : List (List Char)) (line : List Char) :
    carryFrom active (line :: rest) =
      takeUp active line ::
        carryFrom (leftOpen (active.flatten ++ line)) rest := by
  have left :
      activeAfter [] (codesOf (pieces (active.flatten ++ line))) =
        leftOpen (active.flatten ++ line) :=
    activeAfter_sinceReset [] _
  rw [carryFrom, takeUp]
  simp only [left, List.isEmpty_iff]

theorem leftOpen_flatten_append
    (codes : ∀ code ∈ before, IsCode code)
    (line : List Char) :
    leftOpen ((sinceReset before).flatten ++ line) =
      sinceReset (before ++ codesOf (pieces line)) := by
  have taken : ∀ code ∈ sinceReset before, IsCode code :=
    fun code member => codes code (mem_of_mem_sinceReset member)
  rw [leftOpen, pieces_flatten_append taken, codesOf_append, codesOf_map_code,
    sinceReset_append]

/-- The pieces of a line are kept between the codes that it takes up and the
reset that may end it. -/
theorem pieces_takeUp
    (codes : ∀ code ∈ active, IsCode code)
    (line : List Char) :
    pieces (takeUp active line) = active.map .code ++ pieces line ∨
      pieces (takeUp active line) =
        active.map .code ++ pieces line ++ [.code reset] := by
  have opened := pieces_flatten_append codes line
  unfold takeUp
  dsimp only
  split
  · exact .inl opened
  · exact .inr (by rw [pieces_append_reset, opened])

theorem visible_takeUp
    (codes : ∀ code ∈ active, IsCode code)
    (line : List Char) :
    visible (takeUp active line) = visible line := by
  have opened :
      visibleOf (active.map .code ++ pieces line) = visible line := by
    rw [visibleOf_append, visibleOf_map_code, List.nil_append, visible]
  rcases pieces_takeUp codes line with same | same
  · rw [visible, same, opened]
  · rw [visible, same, visibleOf_append, opened, visibleOf_code,
      visibleOf_nil, List.append_nil]

/-- Taken alone, a line that takes up the codes in force shows what it shows
after the codes that came before. -/
theorem shownAlone_takeUp
    (codes : ∀ code ∈ before, IsCode code)
    (line : List Char) :
    shownAlone (takeUp (sinceReset before) line) =
      shownAfter before (pieces line) := by
  have opened :
      shownAfter [] ((sinceReset before).map .code ++ pieces line) =
        shownAfter before (pieces line) := by
    rw [shownAfter_map_code_append, List.nil_append]
    exact shownAfter_congr (sinceReset_sinceReset before) _
  have taken : ∀ code ∈ sinceReset before, IsCode code :=
    fun code member => codes code (mem_of_mem_sinceReset member)
  rcases pieces_takeUp taken line with same | same
  · rw [shownAlone, same, opened]
  · rw [shownAlone, same, shownAfter_concat_code, opened]

/-- Nothing is in force behind a line. -/
theorem leftOpen_takeUp (active : List (List Char)) (line : List Char) :
    leftOpen (takeUp active line) = [] := by
  unfold takeUp
  dsimp only
  split
  · assumption
  · rw [leftOpen, pieces_append_reset, codesOf_append]
    exact (sinceReset_concat _ reset).trans (if_pos rfl)

theorem isCode_of_mem_leftOpen
    {code : List Char}
    (member : code ∈ leftOpen line) :
    IsCode code :=
  isCode_of_mem_codesOf (mem_of_mem_sinceReset member)

theorem lineFree_takeUp
    (codes : ∀ code ∈ active, IsCode code)
    (lineFree : '\n' ∉ line) :
    '\n' ∉ takeUp active line := by
  have opened : '\n' ∉ active.flatten ++ line := by
    rw [List.mem_append, List.mem_flatten, not_or]
    refine ⟨?_, lineFree⟩
    rintro ⟨code, member, lineEnd⟩
    exact (codes code member).lineFree lineEnd
  unfold takeUp
  dsimp only
  split
  · exact opened
  · rw [List.mem_append, not_or]
    exact ⟨opened, isCode_reset.lineFree⟩

/-! ## All lines -/

theorem isCode_of_mem_append
    (codes : ∀ code ∈ before, IsCode code)
    (line : List Char) :
    ∀ code ∈ before ++ codesOf (pieces line), IsCode code := by
  rw [List.forall_mem_append]
  exact ⟨codes, fun code => isCode_of_mem_codesOf⟩

theorem map_visible_carryFrom
    (codes : ∀ code ∈ before, IsCode code)
    (lines : List (List Char)) :
    (carryFrom (sinceReset before) lines).map visible =
      lines.map visible := by
  induction lines generalizing before with
  | nil => rfl
  | cons line lines inductionStep =>
      rw [carryFrom_cons, leftOpen_flatten_append codes, List.map_cons,
        List.map_cons, inductionStep (isCode_of_mem_append codes line),
        visible_takeUp fun code member =>
          codes code (mem_of_mem_sinceReset member)]

/-- Lines that start from the codes in force show, each alone, what they show
in turn. -/
theorem map_shownAlone_carryFrom
    (codes : ∀ code ∈ before, IsCode code)
    (lines : List (List Char)) :
    (carryFrom (sinceReset before) lines).map shownAlone =
      shownInTurn before lines := by
  induction lines generalizing before with
  | nil => rfl
  | cons line lines inductionStep =>
      rw [carryFrom_cons, leftOpen_flatten_append codes, List.map_cons,
        shownInTurn, shownAlone_takeUp codes,
        inductionStep (isCode_of_mem_append codes line)]

theorem leftOpen_of_mem_carryFrom
    {active lines : List (List Char)}
    (member : line ∈ carryFrom active lines) :
    leftOpen line = [] := by
  induction lines generalizing active with
  | nil => cases member
  | cons first lines inductionStep =>
      rw [carryFrom_cons, List.mem_cons] at member
      rcases member with rfl | later
      · exact leftOpen_takeUp active first
      · exact inductionStep later

/-- Styles that are taken up again do not change the width of a line. -/
theorem map_width_carryStyles
    (colored : Bool)
    (lines : List (List Char)) :
    (carryStyles colored lines).map width = lines.map width := by
  cases colored with
  | false => rfl
  | true =>
      have same := congrArg (List.map List.length)
        (map_visible_carryFrom (List.forall_mem_nil _) lines)
      rwa [List.map_map, List.map_map] at same

/-- Lines with styles taken up again are single lines, as they were. -/
theorem lineFree_of_mem_carryFrom
    {active lines : List (List Char)}
    (codes : ∀ code ∈ active, IsCode code)
    (lineFree : ∀ line ∈ lines, '\n' ∉ line) :
    ∀ line ∈ carryFrom active lines, '\n' ∉ line := by
  induction lines generalizing active with
  | nil => exact List.forall_mem_nil _
  | cons line lines inductionStep =>
      rw [List.forall_mem_cons] at lineFree
      rw [carryFrom_cons, List.forall_mem_cons]
      exact ⟨lineFree_takeUp codes lineFree.1,
        inductionStep (fun code => isCode_of_mem_leftOpen) lineFree.2⟩

theorem lineFree_of_mem_carryStyles
    {colored : Bool}
    {lines : List (List Char)}
    (lineFree : ∀ line ∈ lines, '\n' ∉ line)
    (member : line ∈ carryStyles colored lines) :
    '\n' ∉ line := by
  cases colored with
  | false => exact lineFree line member
  | true =>
      exact lineFree_of_mem_carryFrom (List.forall_mem_nil _) lineFree line
        member

/--
Taking styles up again keeps the lines and their visible characters; each
line, taken alone, shows its characters under the codes since the last reset
that they are under where the lines are shown one after the other, and leaves
no code in force.
-/
theorem carryStyles_selfContained (lines : List (List Char)) :
    (carryStyles true lines).length = lines.length ∧
      (carryStyles true lines).map visible = lines.map visible ∧
      (carryStyles true lines).map shownAlone = shownInTurn [] lines ∧
      ∀ line ∈ carryStyles true lines, leftOpen line = [] := by
  have none : ∀ code ∈ ([] : List (List Char)), IsCode code :=
    List.forall_mem_nil _
  exact ⟨length_carryFrom [] lines, map_visible_carryFrom none lines,
    map_shownAlone_carryFrom none lines,
    fun line => leftOpen_of_mem_carryFrom⟩

/-- A style begun on one line and ended on the next is on both. -/
example :
    shownInTurn [] [styleCode "1" ++ ['a'], 'b' :: reset ++ ['c']] =
      [[('a', [styleCode "1"])], [('b', [styleCode "1"]), ('c', [])]] := by
  cbv

end CrateShelf.Terminal
