import CrateShelf.Markdown.Code
import CrateShelf.Proofs.Highlight.Shade
import CrateShelf.Proofs.Terminal.Wrap

/-!
# The width of shown code

Code is cut before it is highlighted.  A highlighter that only inserts style
codes keeps its lines as wide as they were cut.  It is given code with a line
end at its end, and need not do so for other code.

Main statements: no line of a code block is wider than the columns, where
these are raised to the indent and one character; columns fewer than that make
no difference.
-/

namespace CrateShelf.Markdown

open Highlight Terminal

/-- Whether a way to paint code, the last line of which ends, only inserts
style codes. -/
def Painter.OnlyInserts (paint : Painter) : Prop :=
  ∀ code, Inserts (code ++ ['\n']) (paint (code ++ ['\n']))

/-- Whether a highlighter only inserts style codes. -/
def Highlighter.OnlyInserts (highlighter : Highlighter) : Prop :=
  ∀ name paint, highlighter name = some paint → Painter.OnlyInserts paint

theorem Highlighter.onlyInserts_standard :
    Highlighter.standard.OnlyInserts := by
  intro name paint known code
  obtain ⟨language, -, rfl⟩ := Option.map_eq_some_iff.1 known
  have inserts := inserts_paintAll (language.tokens (code ++ ['\n']))
  cases language with
  | rust => rwa [Language.tokens, textOf_rustTokens] at inserts
  | text => rwa [Language.tokens, textOf_cons, textOf_nil, List.append_nil]
      at inserts

variable
    {highlighter : Highlighter}
    {options : Options}
    {paint : Painter}
    {columns limit : Nat}
    {language line : List Char}
    {lines : List (List Char)}

/-! ## Highlighting -/

/-- The code that is highlighted has the lines given, and an empty one. -/
theorem lines_code
    (some_ : lines ≠ [])
    (lineFree : ∀ line ∈ lines, '\n' ∉ line) :
    Text.lines (Text.unlines lines ++ ['\n']) = lines ++ [[]] := by
  rw [Text.lines, Text.splitAt_append_mark, ← Text.lines,
    Text.lines_unlines_of_lineFree some_ lineFree]
  rfl

/-- Without an order mark, no line gets longer. -/
theorem areWithin_dropOrderMark
    {code : List Char}
    (within : Text.AreWithin limit limit (Text.lines code)) :
    Text.AreWithin limit limit (Text.lines (dropOrderMark code)) := by
  cases code with
  | nil => exact within
  | cons first rest =>
      rw [dropOrderMark]
      split
      · rename_i isMark
        have noLineEnd : first ≠ '\n' := by
          rintro rfl
          exact absurd isMark (by decide)
        obtain ⟨left, rfl, rest⟩ :=
          (Text.areWithin_cons_iff noLineEnd).1 within
        exact rest.mono (Nat.le_succ left)
      · exact within

theorem exists_dropOrderMark_eq (code : List Char) :
    ∃ left, dropOrderMark (code ++ ['\n']) = left ++ ['\n'] := by
  cases code with
  | nil => exact ⟨[], rfl⟩
  | cons first rest =>
      rw [List.cons_append, dropOrderMark]
      split
      · exact ⟨rest, rfl⟩
      · exact ⟨first :: rest, rfl⟩

/-- The code that is painted ends with a line end, and its lines are no longer
than those given. -/
theorem exists_painted_code
    (some_ : lines ≠ [])
    (lineFree : ∀ line ∈ lines, '\n' ∉ line)
    (short : ∀ line ∈ lines, line.length ≤ limit) :
    ∃ code,
      Text.unifyLineEnds (dropOrderMark (Text.unlines lines ++ ['\n'])) =
        code ++ ['\n'] ∧
      ∀ part ∈ Text.lines (code ++ ['\n']), part.length ≤ limit := by
  have given :
      Text.AreWithin limit limit
        (Text.lines (Text.unlines lines ++ ['\n'])) := by
    rw [Text.areWithin_self_iff, lines_code some_ lineFree,
      List.forall_mem_append, List.forall_mem_singleton]
    exact ⟨short, Nat.zero_le _⟩
  have read := Text.areWithin_unifyLineEnds (Nat.le_refl _)
    (areWithin_dropOrderMark given)
  obtain ⟨left, unmarked⟩ := exists_dropOrderMark_eq (Text.unlines lines)
  obtain ⟨code, unified⟩ := Text.exists_unifyLineEnds_eq left
  rw [unmarked, unified, Text.areWithin_self_iff] at read
  exact ⟨code, by rw [unmarked, unified], read⟩

/-- A line of highlighted code is no wider than the lines of the code are
long. -/
theorem width_le_of_mem_highlight
    (onlyInserts : Painter.OnlyInserts paint)
    (lineFree : ∀ line ∈ lines, '\n' ∉ line)
    (short : ∀ line ∈ lines, line.length ≤ limit)
    (member : line ∈ highlight paint lines) :
    width line ≤ limit := by
  have some_ : lines ≠ [] := by
    rintro rfl
    rw [highlight, List.length_nil, List.take_zero] at member
    cases member
  obtain ⟨code, same, read⟩ := exists_painted_code some_ lineFree short
  rw [highlight, same] at member
  obtain ⟨count, ends⟩ := Text.exists_lines_eq (paint (code ++ ['\n']))
  have painted := List.mem_append_left (List.replicate count [])
    (List.mem_of_mem_take member)
  rw [← ends] at painted
  obtain ⟨part, among, shown⟩ :=
    exists_inserts_of_mem (onlyInserts code).lines painted
  exact shown.width_le.trans (read part among)

theorem lineFree_of_mem_highlight (member : line ∈ highlight paint lines) :
    '\n' ∉ line :=
  Text.lineFree_of_mem_lines (List.mem_of_mem_take member)

/-! ## Code blocks -/

/-- The columns that a code block needs: the indent and one character. -/
def leastCode : Nat := 3

/-- Code is cut to one character where there are too few columns. -/
theorem renderCode_of_le (few : columns ≤ leastCode) :
    renderCode highlighter options columns language lines =
      renderCode highlighter options 0 language lines := by
  have room : max (columns - 2) 1 = max (0 - 2) 1 := by
    rw [leastCode] at few
    omega
  simp only [renderCode, List.length_cons, List.length_nil, Nat.zero_add,
    Nat.reduceAdd, room]

/-- Behind its indent, a line of a code block is a line that was cut, or one
that the cut lines are painted as. -/
theorem exists_of_mem_renderCode
    (member : line ∈ renderCode highlighter options columns language lines) :
    ∃ cut shown, line = [' ', ' '] ++ shown ∧
      (∀ part ∈ cut, ∃ whole ∈ lines,
        part = whole.take (max (columns - 2) 1)) ∧
      (shown ∈ cut ∨ ∃ name paint, highlighter name = some paint ∧
        shown ∈ highlight paint cut) := by
  simp only [renderCode] at member
  obtain ⟨shown, painted, rfl⟩ := List.mem_map.1 member
  generalize left :
    (if language = "rust".toList then lines.filter (!isHiddenLine ·)
      else lines) = visible at painted
  have among : visible ⊆ lines := by
    rw [← left]
    split
    · exact List.filter_subset_self _
    · exact List.Subset.refl _
  refine ⟨visible.map (·.take (max (columns - 2) 1)), shown, rfl, ?_, ?_⟩
  · intro part inCut
    obtain ⟨whole, inVisible, rfl⟩ := List.mem_map.1 inCut
    exact ⟨whole, among inVisible, rfl⟩
  · split at painted
    · rename_i paint known
      right
      split at known
      · rw [Option.orElse_eq_orElse, Option.orElse_eq_or,
          Option.or_eq_some_iff] at known
        rcases known with known | ⟨-, known⟩
        · exact ⟨language, paint, known, painted⟩
        · exact ⟨_, paint, known, painted⟩
      · cases known
    · exact Or.inl painted

/-- No line of a code block is wider than the columns, if these are raised to
what a code block needs. -/
theorem width_le_of_mem_renderCode
    (onlyInserts : highlighter.OnlyInserts)
    (lineFree : ∀ line ∈ lines, '\n' ∉ line)
    (member : line ∈ renderCode highlighter options columns language lines) :
    width line ≤ max columns leastCode := by
  obtain ⟨cut, shown, rfl, short, written⟩ := exists_of_mem_renderCode member
  have fits : width shown ≤ max (columns - 2) 1 := by
    have shortParts :
        ∀ part ∈ cut, part.length ≤ max (columns - 2) 1 := by
      intro part among
      obtain ⟨whole, -, rfl⟩ := short part among
      exact List.length_take_le _ _
    rcases written with plain | ⟨name, paint, known, painted⟩
    · exact (width_le_length shown).trans (shortParts shown plain)
    · refine width_le_of_mem_highlight (onlyInserts name paint known) ?_
        shortParts painted
      intro part among
      obtain ⟨whole, inLines, rfl⟩ := short part among
      exact fun lineEnd => lineFree whole inLines (List.mem_of_mem_take lineEnd)
  have isLead : IsLead [' ', ' '] := isLead_replicate 2
  have indent : width [' ', ' '] = 2 :=
    width_replicate (show isOpening ' ' = false by decide) 2
  rw [isLead.width_append, indent, leastCode]
  omega

theorem lineFree_of_mem_renderCode
    (lineFree : ∀ line ∈ lines, '\n' ∉ line)
    (member : line ∈ renderCode highlighter options columns language lines) :
    '\n' ∉ line := by
  obtain ⟨cut, shown, rfl, short, written⟩ := exists_of_mem_renderCode member
  rw [List.mem_append, not_or]
  refine ⟨by decide, ?_⟩
  rcases written with plain | ⟨name, paint, known, painted⟩
  · obtain ⟨whole, inLines, rfl⟩ := short shown plain
    exact fun lineEnd => lineFree whole inLines (List.mem_of_mem_take lineEnd)
  · exact lineFree_of_mem_highlight painted

end CrateShelf.Markdown
