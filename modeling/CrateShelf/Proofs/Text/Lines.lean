import CrateShelf.Text.Lines
import Mathlib.Data.List.Basic
import Mathlib.Data.List.Induction

/-!
# Lines of a text

Main statements: the lines of lines that are joined are those of each; line
ends at the end of a text only make for empty lines; and where all sorts of
line ends are made one, no line gets longer.
-/

namespace CrateShelf.Text

variable
    {mark : Char}
    {text line first second : List Char}

/-! ## Pieces -/

/-- A text without the mark is one piece. -/
theorem splitAt_of_not_mem (absent : mark ∉ text) :
    splitAt mark text = [text] := by
  induction text with
  | nil => rfl
  | cons char text inductionStep =>
      rw [List.mem_cons, not_or] at absent
      have different : ¬ char = mark := fun same => absent.1 same.symm
      rw [splitAt, if_neg different, inductionStep absent.2, consFirst]

/-- Each text on a side of a mark has pieces of its own. -/
theorem splitAt_append_mark (first second : List Char) :
    splitAt mark (first ++ mark :: second) =
      splitAt mark first ++ splitAt mark second := by
  induction first with
  | nil => simp [splitAt]
  | cons char first inductionStep =>
      rw [List.cons_append, splitAt, splitAt, inductionStep]
      split
      · rfl
      · obtain ⟨piece, more, pieces⟩ :=
          List.exists_cons_of_ne_nil (splitAt_ne_nil mark first)
        rw [pieces]
        rfl

theorem not_mem_of_mem_splitAt
    {piece : List Char}
    (member : piece ∈ splitAt mark text) :
    mark ∉ piece := by
  induction text generalizing piece with
  | nil =>
      rw [splitAt, List.mem_singleton] at member
      rw [member]
      exact List.not_mem_nil
  | cons char text inductionStep =>
      rw [splitAt] at member
      split at member
      · rcases List.mem_cons.1 member with rfl | member
        · exact List.not_mem_nil
        · exact inductionStep member
      · rename_i different
        obtain ⟨first, more, pieces⟩ :=
          List.exists_cons_of_ne_nil (splitAt_ne_nil mark text)
        rw [pieces] at member inductionStep
        rcases List.mem_cons.1 member with rfl | member
        · rw [List.mem_cons, not_or]
          exact ⟨fun same => different same.symm,
            inductionStep List.mem_cons_self⟩
        · exact inductionStep (List.mem_cons_of_mem _ member)

/-! ## Joined pieces -/

/-- Pieces that are joined with a mark that none has are got back. -/
theorem splitAt_intercalate
    {pieces : List (List Char)}
    (some_ : pieces ≠ [])
    (absent : ∀ piece ∈ pieces, mark ∉ piece) :
    splitAt mark ([mark].intercalate pieces) = pieces := by
  induction pieces with
  | nil => exact absurd rfl some_
  | cons piece pieces inductionStep =>
      rw [List.forall_mem_cons] at absent
      cases pieces with
      | nil =>
          rw [List.intercalate_singleton]
          exact splitAt_of_not_mem absent.1
      | cons next pieces =>
          rw [List.intercalate_cons_cons, List.append_assoc,
            List.singleton_append, splitAt_append_mark,
            splitAt_of_not_mem absent.1,
            inductionStep (List.cons_ne_nil _ _) absent.2]
          rfl

/-- What is joined is made of the pieces and the separator. -/
theorem mem_intercalate
    {char separator : Char}
    {pieces : List (List Char)}
    (member : char ∈ [separator].intercalate pieces) :
    char = separator ∨ ∃ piece ∈ pieces, char ∈ piece := by
  induction pieces with
  | nil => cases member
  | cons piece pieces inductionStep =>
      cases pieces with
      | nil =>
          rw [List.intercalate_singleton] at member
          exact Or.inr ⟨piece, by simp, member⟩
      | cons next pieces =>
          rw [List.intercalate_cons_cons, List.mem_append, List.mem_append,
            List.mem_singleton] at member
          rcases member with (first | same) | others
          · exact Or.inr ⟨piece, by simp, first⟩
          · exact Or.inl same
          · rcases inductionStep others with same | ⟨other, known, inside⟩
            · exact Or.inl same
            · exact Or.inr ⟨other, List.mem_cons_of_mem _ known, inside⟩

theorem mem_intercalate_of_mem
    {char separator : Char}
    {pieces : List (List Char)}
    (inside : ∃ piece ∈ pieces, char ∈ piece) :
    char ∈ [separator].intercalate pieces := by
  induction pieces with
  | nil => simp at inside
  | cons piece pieces inductionStep =>
      rw [List.exists_mem_cons_iff] at inside
      cases pieces with
      | nil => simpa using inside
      | cons next pieces =>
          rw [List.intercalate_cons_cons, List.mem_append, List.mem_append]
          rcases inside with first | others
          · exact Or.inl (Or.inl first)
          · exact Or.inr (inductionStep others)

/-! ## Lines -/

theorem lines_cons_of_ne
    {char : Char}
    (different : char ≠ '\n')
    (text : List Char) :
    lines (char :: text) = consFirst char (lines text) := by
  rw [lines, splitAt, if_neg different]
  rfl

theorem lines_cons_lineEnd (text : List Char) :
    lines ('\n' :: text) = [] :: lines text := by
  rw [lines, splitAt, if_pos rfl]
  rfl

theorem lines_ne_nil (text : List Char) : lines text ≠ [] :=
  splitAt_ne_nil '\n' text

theorem lineFree_of_mem_lines (member : line ∈ lines text) : '\n' ∉ line :=
  not_mem_of_mem_splitAt member

/-- A text without line ends stands in front of the first line. -/
theorem lines_append_of_lineFree
    (lineFree : '\n' ∉ first)
    (second : List Char) :
    lines (first ++ second) = (lines second).modifyHead (first ++ ·) := by
  obtain ⟨head, more, shape⟩ :=
    List.exists_cons_of_ne_nil (lines_ne_nil second)
  induction first with
  | nil => rw [List.nil_append, shape]; rfl
  | cons char first inductionStep =>
      rw [List.mem_cons, not_or] at lineFree
      have different : char ≠ '\n' := fun same => lineFree.1 same.symm
      rw [List.cons_append, lines_cons_of_ne different,
        inductionStep lineFree.2, shape]
      rfl

/-- The lines of lines that are joined are those of each. -/
theorem lines_unlines
    {parts : List (List Char)}
    (some_ : parts ≠ []) :
    lines (unlines parts) = parts.flatMap lines := by
  induction parts with
  | nil => exact absurd rfl some_
  | cons part parts inductionStep =>
      cases parts with
      | nil =>
          rw [unlines, List.intercalate_singleton, List.flatMap_singleton]
      | cons next parts =>
          have joined :
              unlines (part :: next :: parts) =
                part ++ '\n' :: unlines (next :: parts) := by
            rw [unlines, List.intercalate_cons_cons, List.append_assoc]
            rfl
          have rest := inductionStep (List.cons_ne_nil _ _)
          rw [joined, lines, splitAt_append_mark, ← lines, ← lines, rest]
          rfl

/-- Lines that are joined are read again. -/
theorem lines_unlines_of_lineFree
    {parts : List (List Char)}
    (some_ : parts ≠ [])
    (lineFree : ∀ part ∈ parts, '\n' ∉ part) :
    lines (unlines parts) = parts := by
  have each : parts.flatMap lines = parts.flatMap fun part => [part] :=
    List.flatMap_congr fun part member =>
      splitAt_of_not_mem (lineFree part member)
  rw [lines_unlines some_, each, List.flatMap_singleton']

/-- Line ends at the end of a text make for empty lines. -/
theorem exists_lines_eq (text : List Char) :
    ∃ count,
      lines text = lines (dropLineEnds text) ++ List.replicate count [] := by
  induction text using List.reverseRecOn with
  | nil => exact ⟨0, rfl⟩
  | append_singleton text char inductionStep =>
      by_cases lineEnd : char = '\n'
      · obtain ⟨count, same⟩ := inductionStep
        have dropped : dropLineEnds (text ++ [char]) = dropLineEnds text := by
          simp [dropLineEnds, lineEnd]
        have ended : lines (text ++ [char]) = lines text ++ [[]] := by
          rw [lineEnd, lines, splitAt_append_mark]
          rfl
        refine ⟨count + 1, ?_⟩
        rw [dropped, ended, same, List.append_assoc, List.replicate_succ']
      · have kept : dropLineEnds (text ++ [char]) = text ++ [char] := by
          simp [dropLineEnds, lineEnd]
        exact ⟨0, by rw [kept]; simp⟩

/-- A line end at the end of a text stays where all sorts of line ends are
made one. -/
theorem exists_unifyLineEnds_eq (text : List Char) :
    ∃ unified, unifyLineEnds (text ++ ['\n']) = unified ++ ['\n'] := by
  fun_induction unifyLineEnds text with
  | case1 => exact ⟨[], rfl⟩
  | case2 rest inductionStep =>
      obtain ⟨unified, same⟩ := inductionStep
      exact ⟨'\n' :: unified, congrArg ('\n' :: ·) same⟩
  | case3 rest lone inductionStep =>
      cases rest with
      | nil => exact ⟨[], rfl⟩
      | cons next rest =>
          obtain ⟨unified, same⟩ := inductionStep
          refine ⟨'\n' :: unified, ?_⟩
          rw [List.cons_append, List.cons_append, unifyLineEnds,
            ← List.cons_append, same, List.cons_append]
          exact fun more shape => lone rest (by cases shape; rfl)
  | case4 char rest noPair noReturn inductionStep =>
      obtain ⟨unified, same⟩ := inductionStep
      refine ⟨char :: unified, ?_⟩
      rw [List.cons_append, unifyLineEnds, same, List.cons_append]
      · exact fun more isReturn _ => noReturn isReturn
      · exact noReturn

/-! ## Length of lines -/

/-- Whether the first line has at most as many characters as there is room
for, and no other line is longer than it may be. -/
def AreWithin (limit room : Nat) (parts : List (List Char)) : Prop :=
  (∀ part ∈ parts.head?, part.length ≤ room) ∧
    ∀ part ∈ parts.tail, part.length ≤ limit

variable {limit room : Nat}

theorem AreWithin.mono
    {parts : List (List Char)}
    {more : Nat}
    (within : AreWithin limit room parts)
    (roomier : room ≤ more) :
    AreWithin limit more parts :=
  ⟨fun part first => Nat.le_trans (within.1 part first) roomier, within.2⟩

theorem areWithin_self_iff
    {parts : List (List Char)} :
    AreWithin limit limit parts ↔ ∀ part ∈ parts, part.length ≤ limit := by
  cases parts with
  | nil => simp [AreWithin]
  | cons part parts => simp [AreWithin]

theorem areWithin_lineEnd_iff :
    AreWithin limit room (lines ('\n' :: text)) ↔
      AreWithin limit limit (lines text) := by
  rw [lines_cons_lineEnd, areWithin_self_iff]
  simp [AreWithin]

theorem areWithin_cons_iff
    {char : Char}
    (different : char ≠ '\n') :
    AreWithin limit room (lines (char :: text)) ↔
      ∃ left, room = left + 1 ∧ AreWithin limit left (lines text) := by
  obtain ⟨first, more, shape⟩ := List.exists_cons_of_ne_nil (lines_ne_nil text)
  rw [lines_cons_of_ne different, shape]
  simp only [AreWithin, consFirst, List.head?_cons, Option.mem_def,
    Option.some.injEq, forall_eq', List.tail_cons, List.length_cons]
  constructor
  · rintro ⟨short, others⟩
    exact ⟨room - 1, by omega, by omega, others⟩
  · rintro ⟨left, rfl, short, others⟩
    exact ⟨by omega, others⟩

/-- Where all sorts of line ends are made one, no line gets longer. -/
theorem areWithin_unifyLineEnds
    (roomy : room ≤ limit)
    (within : AreWithin limit room (lines text)) :
    AreWithin limit room (lines (unifyLineEnds text)) := by
  fun_induction unifyLineEnds text generalizing room with
  | case1 => exact within
  | case2 rest inductionStep =>
      obtain ⟨left, rfl, rest⟩ := (areWithin_cons_iff (by decide)).1 within
      rw [areWithin_lineEnd_iff] at rest ⊢
      exact inductionStep (Nat.le_refl _) rest
  | case3 rest _ inductionStep =>
      obtain ⟨left, rfl, rest⟩ := (areWithin_cons_iff (by decide)).1 within
      rw [areWithin_lineEnd_iff]
      exact inductionStep (Nat.le_refl _) (rest.mono (Nat.le_of_succ_le roomy))
  | case4 char rest _ _ inductionStep =>
      by_cases lineEnd : char = '\n'
      · rw [lineEnd, areWithin_lineEnd_iff] at within ⊢
        exact inductionStep (Nat.le_refl _) within
      · obtain ⟨left, rfl, rest⟩ := (areWithin_cons_iff lineEnd).1 within
        exact (areWithin_cons_iff lineEnd).2
          ⟨left, rfl, inductionStep (Nat.le_of_succ_le roomy) rest⟩

end CrateShelf.Text
