import CrateShelf.Highlight.Rust
import CrateShelf.Highlight.Shade
import CrateShelf.Proofs.Terminal.Styled
import CrateShelf.Proofs.Text.Lines

/-!
# Painted code

Painting inserts style codes between the characters of the code.

Main statements: lines of painted code are the lines of the code with codes
inserted, and none is wider than the line of the code is long.
-/

namespace CrateShelf.Highlight

open Terminal

/-- Whether a text is another one with style codes inserted. -/
inductive Inserts : List Char → List Char → Prop where
  | nil : Inserts [] []
  | char (char : Char) {text shown : List Char} (rest : Inserts text shown) :
      Inserts (char :: text) (char :: shown)
  | code {code text shown : List Char} (isCode : IsCode code)
      (rest : Inserts text shown) : Inserts text (code ++ shown)

variable
    {text shown first second firstShown secondShown code : List Char}

theorem Inserts.refl (text : List Char) : Inserts text text := by
  induction text with
  | nil => exact .nil
  | cons char text inductionStep => exact .char char inductionStep

theorem Inserts.append
    (firstInserts : Inserts first firstShown)
    (secondInserts : Inserts second secondShown) :
    Inserts (first ++ second) (firstShown ++ secondShown) := by
  induction firstInserts with
  | nil => exact secondInserts
  | char char rest inductionStep => exact .char char inductionStep
  | code isCode rest inductionStep =>
      rw [List.append_assoc]
      exact .code isCode inductionStep

/-- A text with codes inserted takes at most as many columns as it had
characters.  An inserted code may undo one that was there. -/
theorem Inserts.width_le (inserts : Inserts text shown) :
    width shown ≤ text.length := by
  induction inserts with
  | nil => rw [width_nil]; exact Nat.le_refl _
  | char char rest inductionStep =>
      exact (width_cons_le char _).trans (Nat.succ_le_succ inductionStep)
  | code isCode rest inductionStep =>
      rw [width_code_append isCode]
      exact inductionStep

theorem forall₂_inserts_consFirst
    {parts shownParts : List (List Char)}
    (insert : List.Forall₂ Inserts parts shownParts)
    (char : Char) :
    List.Forall₂ Inserts (Text.consFirst char parts)
      (Text.consFirst char shownParts) := by
  cases insert with
  | nil => exact .cons (.char char .nil) .nil
  | cons first others => exact .cons (.char char first) others

theorem forall₂_inserts_modifyHead
    {parts shownParts : List (List Char)}
    (insert : List.Forall₂ Inserts parts shownParts)
    (isCode : IsCode code) :
    List.Forall₂ Inserts parts (shownParts.modifyHead (code ++ ·)) := by
  cases insert with
  | nil => exact .nil
  | cons first others => exact .cons (.code isCode first) others

/-- The lines are those of the text, each with codes inserted. -/
theorem Inserts.lines (inserts : Inserts text shown) :
    List.Forall₂ Inserts (Text.lines text) (Text.lines shown) := by
  induction inserts with
  | nil => exact .cons .nil .nil
  | @char char text shown rest inductionStep =>
      by_cases lineEnd : char = '\n'
      · rw [lineEnd, Text.lines_cons_lineEnd, Text.lines_cons_lineEnd]
        exact .cons .nil inductionStep
      · rw [Text.lines_cons_of_ne lineEnd, Text.lines_cons_of_ne lineEnd]
        exact forall₂_inserts_consFirst inductionStep char
  | code isCode rest inductionStep =>
      rw [Text.lines_append_of_lineFree isCode.lineFree]
      exact forall₂_inserts_modifyHead inductionStep isCode

theorem exists_inserts_of_mem
    {parts shownParts : List (List Char)}
    (insert : List.Forall₂ Inserts parts shownParts)
    (member : shown ∈ shownParts) :
    ∃ part ∈ parts, Inserts part shown := by
  induction insert with
  | nil => cases member
  | cons first others inductionStep =>
      rcases List.mem_cons.1 member with rfl | member
      · exact ⟨_, List.mem_cons_self, first⟩
      · obtain ⟨part, among, inserts⟩ := inductionStep member
        exact ⟨part, List.mem_cons_of_mem _ among, inserts⟩

/-! ## Painting -/

theorem Shade.isCode_on (shade : Shade) : IsCode (styleCode shade.on) := by
  apply isCode_styleCode
  cases shade with
  | plain | keyword | operator | number | string | comment | name | invalid =>
    decide

theorem Shade.isCode_off (shade : Shade) : IsCode (styleCode shade.off) := by
  apply isCode_styleCode
  cases shade with
  | plain | keyword | operator | number | string | comment | name | invalid =>
    decide

theorem Token.inserts_paintLine (shade : Shade) (line : List Char) :
    Inserts line (paintLine shade line) := by
  rw [paintLine]
  split
  · rename_i empty
    rw [List.isEmpty_iff] at empty
    rw [empty]
    exact .nil
  · have off : Inserts [] (styleCode shade.off) := by
      rw [← List.append_nil (styleCode shade.off)]
      exact .code shade.isCode_off .nil
    have painted := (Inserts.refl line).append off
    rw [List.append_nil] at painted
    rw [List.append_assoc]
    exact .code shade.isCode_on painted

/-- Lines with codes inserted make up the text with codes inserted. -/
theorem inserts_unlines
    {paint : List Char → List Char}
    (inserts : ∀ line, Inserts line (paint line))
    (parts : List (List Char)) :
    Inserts (Text.unlines parts) (Text.unlines (parts.map paint)) := by
  induction parts with
  | nil => exact .nil
  | cons part parts inductionStep =>
      cases parts with
      | nil =>
          rw [List.map_singleton, Text.unlines, Text.unlines,
            List.intercalate_singleton, List.intercalate_singleton]
          exact inserts part
      | cons next parts =>
          rw [List.map_cons, Text.unlines, List.intercalate_cons_cons,
            Text.unlines, List.map_cons, List.intercalate_cons_cons]
          exact ((inserts part).append (.refl _)).append inductionStep

theorem Token.inserts_paint (token : Token) :
    Inserts token.text token.paint := by
  have inserts :=
    inserts_unlines (inserts_paintLine token.shade) (Text.lines token.text)
  rwa [Text.unlines_lines] at inserts

/-- Painting tokens inserts codes into their text. -/
theorem inserts_paintAll (tokens : List Token) :
    Inserts (textOf tokens) (paintAll tokens) := by
  induction tokens with
  | nil => exact .nil
  | cons token tokens inductionStep =>
      exact token.inserts_paint.append inductionStep

theorem interpreterLine_append_drop (text : List Char) :
    interpreterLine text ++ text.drop (interpreterLine text).length = text := by
  rw [← List.prefix_iff_eq_append]
  unfold interpreterLine
  split
  · split
    · exact List.nil_prefix
    · exact List.takeWhile_prefix _
  · exact List.nil_prefix

/-- The tokens of Rust code, put together, are the code. -/
theorem textOf_rustTokens (text : List Char) :
    textOf (rustTokens text) = text := by
  simp only [rustTokens]
  split
  · exact textOf_tokensIn _ _
  · rw [textOf_cons, textOf_tokensIn]
    exact interpreterLine_append_drop text

end CrateShelf.Highlight
