import CrateShelf.Docs.Note
import CrateShelf.Proofs.FileName
import CrateShelf.Proofs.Outcome

/-!
# Literals without a value

A string literal has no value only if one of its escapes is for a number
beyond the last code point.  Notes can be read if the literals in them have
values.

Main statement: where a literal has no value, there is such an escape in it.
-/

namespace CrateShelf.Docs

/-! ## Escapes -/

/-- Whether a text holds an escape for a number beyond the last code
point. -/
def HoldsVastEscape (text : List Char) : Prop :=
  ∃ written number,
    '\\' :: 'u' :: '\x7b' :: (written ++ ['\x7d']) <:+: text ∧
      readHex? (written.filter (· != '_')) = some number ∧
      0x110000 ≤ number

theorem HoldsVastEscape.mono
    {text whole : List Char}
    (holds : HoldsVastEscape text)
    (within : text <:+: whole) :
    HoldsVastEscape whole := by
  rcases holds with ⟨written, number, inside, read, vast⟩
  exact ⟨written, number, inside.trans within, read, vast⟩

theorem vast_of_pointOfNumber
    {number : Nat}
    {error : LiteralError}
    (none : pointOfNumber number = .error error) :
    0x110000 ≤ number := by
  unfold pointOfNumber at none
  split at none
  · cases none
  · rename_i noPoint
    exact (CodePoint.ofNumber?_eq_none_iff number).1 noPoint

/-- The digits between the braces of an escape. -/
theorem exists_written_of_longNumber?
    {text left : List Char}
    {number : Nat}
    (read : longNumber? text = some (number, left)) :
    ∃ written,
      text = '\x7b' :: (written ++ '\x7d' :: left) ∧
        readHex? (written.filter (· != '_')) = some number := by
  unfold longNumber? at read
  split at read
  · rename_i inner
    split at read
    · cases read
    · rename_i written rest cut
      dsimp only at read
      split at read
      · rcases Option.bind_eq_some_iff.1 read with ⟨value, digits, same⟩
        cases same
        exact ⟨written, by rw [Text.eq_append_of_cutFirst cut], digits⟩
      · cases read
  · cases read

/-- Only an escape for a vast number has no meaning. -/
theorem holdsVastEscape_of_readEscape
    {next : Char}
    {rest : List Char}
    {error : LiteralError}
    (none : readEscape next rest = .error error) :
    HoldsVastEscape ('\\' :: next :: rest) := by
  unfold readEscape at none
  dsimp only at none
  split at none
  · cases none
  · split at none
    · split at none
      · cases none
      · cases none
    · split at none
      · rename_i isLong
        subst isLong
        split at none
        · rename_i number left read
          rcases exists_written_of_longNumber? read with
            ⟨written, rfl, digits⟩
          refine ⟨written, number, ⟨[], left, ?_⟩, digits, ?_⟩
          · simp
          · cases made : pointOfNumber number with
            | error other => exact vast_of_pointOfNumber made
            | ok point =>
                rw [made] at none
                cases none
        · cases none
      · split at none
        · cases none
        · cases none

/-- What is left after an escape is the end of the text. -/
theorem suffix_of_readEscape
    {next : Char}
    {rest : List Char}
    {meaning : List CodePoint}
    {left : { left : List Char // left.length ≤ rest.length }}
    (read : readEscape next rest = .ok (meaning, left)) :
    left.1 <:+ rest := by
  unfold readEscape at read
  dsimp only at read
  split at read
  · cases read
    exact List.suffix_rfl
  · split at read
    · split at read
      · rename_i number after short
        cases read
        unfold shortNumber? at short
        split at short
        · rename_i high low later
          rcases Option.bind_eq_some_iff.1 short with ⟨value, _, same⟩
          cases same
          exact List.suffix_append [high, low] _
        · cases short
      · cases read
        exact List.suffix_rfl
    · split at read
      · split at read
        · rename_i number after long
          rcases exists_written_of_longNumber? long with ⟨written, rfl, _⟩
          rcases bind_eq_ok_iff.1 read with ⟨char, _, same⟩
          cases same
          exact ⟨'\x7b' :: (written ++ ['\x7d']), by simp⟩
        · cases read
          exact List.suffix_rfl
      · split at read
        · cases read
          exact List.dropWhile_suffix _
        · cases read
          exact List.suffix_rfl

/-- A text whose escapes cannot all be read holds one for a vast number. -/
theorem holdsVastEscape_of_unescape
    {text : List Char}
    {error : LiteralError}
    (none : unescape text = .error error) :
    HoldsVastEscape text := by
  fun_induction unescape text with
  | case1 => cases none
  | case2 next rest problem read =>
      exact holdsVastEscape_of_readEscape read
  | case3 next rest meaning left shorter read inductionStep =>
      cases later : unescape left with
      | error other =>
          apply (inductionStep later).mono
          exact ((suffix_of_readEscape read).trans
            (List.suffix_append ['\\', next] rest)).isInfix
      | ok value =>
          rw [later] at none
          cases none
  | case4 char next rest other inductionStep =>
      cases read : unescape (next :: rest) with
      | error other =>
          exact (inductionStep read).mono
            (List.suffix_cons _ _).isInfix
      | ok value =>
          rw [read] at none
          cases none
  | case5 char => cases none

theorem isInfix_trim (text : List Char) :
    Text.trim text <:+: text := by
  unfold Text.trim Text.trimEnd Text.trimStart
  have front :
      ((text.dropWhile Text.isBlank).reverse.dropWhile
        Text.isBlank).reverse <+: text.dropWhile Text.isBlank := by
    rw [← List.reverse_suffix, List.reverse_reverse]
    exact List.dropWhile_suffix _
  exact front.isInfix.trans (List.dropWhile_suffix _).isInfix

/-- Only a literal with an escape for a vast number has no value. -/
theorem holdsVastEscape_of_literalValue
    {written : List Char}
    {error : LiteralError}
    (none : literalValue written = .error error) :
    HoldsVastEscape written := by
  unfold literalValue at none
  dsimp only at none
  split at none
  · cases none
  · split at none
    · rename_i text quoted
      apply (holdsVastEscape_of_unescape none).mono
      apply List.IsInfix.trans _ (isInfix_trim written)
      unfold quotedText? at quoted
      split at quoted
      · rename_i rest trimmed
        split at quoted
        · cases quoted
          have front := List.dropLast_prefix rest
          rw [trimmed]
          exact front.isInfix.trans (List.suffix_cons _ _).isInfix
        · cases quoted
      · cases quoted
    · cases none

/-! ## Notes -/

/-- The literal in the body of an attribute that says something by its
value. -/
def literalIn? (body : List Char) : Option (List Char) :=
  match attributeValue? "doc".toList body,
      attributeWords? "doc".toList body with
  | some value, _ => some value
  | none, some _ => none
  | none, none => attributeValue? "path".toList body

/-- The literal in a note, if what the note says depends on one. -/
def literalOf? : Note → Option (List Char)
  | .attribute _ text => (attributeBody? text).bind literalIn?
  | _ => none

namespace Remarks

theorem literal_of_addAttribute
    {remarks : Remarks}
    {written : List Char}
    {error : LiteralError}
    (unread : remarks.addAttribute written = .error error) :
    ∃ literal,
      (attributeBody? written).bind literalIn? = some literal ∧
        literalValue literal = .error error := by
  have fails :
      ∀ {literal : List Char} {next : List CodePoint → Remarks},
        (literalValue literal >>= fun value => pure (next value)) =
            Except.error error →
          literalValue literal = .error error := by
    intro literal next unread
    rcases bind_eq_error_iff.1 unread with here | ⟨_, _, later⟩
    · exact here
    · cases later
  unfold addAttribute at unread
  split at unread
  · cases unread
  · rename_i body inside
    rw [inside, Option.bind_some, literalIn?]
    split at unread
    · rename_i value isDoc
      rw [isDoc]
      exact ⟨value, rfl, fails unread⟩
    · rename_i noDoc
      rw [noDoc]
      split at unread
      · cases unread
      · rename_i noWords
        rw [noWords]
        split at unread
        · rename_i value isPath
          exact ⟨value, isPath, fails unread⟩
        · cases unread

/-- A note cannot be read only if the literal in it has no value. -/
theorem literal_of_addNote
    {direction : Direction}
    {remarks : Remarks}
    {note : Note}
    {error : LiteralError}
    (unread : remarks.addNote direction note = .error error) :
    ∃ literal,
      literalOf? note = some literal ∧
        literalValue literal = .error error := by
  cases note with
  | lineComment text | blockComment text => cases unread
  | «attribute» other text =>
      rw [addNote] at unread
      split at unread
      · exact literal_of_addAttribute unread
      · cases unread

theorem literal_of_foldlM
    {direction : Direction}
    {remarks : Remarks}
    {notes : List Note}
    {error : LiteralError}
    (unread : notes.foldlM (addNote direction) remarks = .error error) :
    ∃ literal ∈ notes.filterMap literalOf?,
      literalValue literal = .error error := by
  induction notes generalizing remarks with
  | nil => cases unread
  | cons note notes inductionStep =>
      rw [List.foldlM_cons] at unread
      rcases bind_eq_error_iff.1 unread with here | ⟨next, _, later⟩
      · rcases literal_of_addNote here with ⟨literal, inside, none⟩
        refine ⟨literal, ?_, none⟩
        exact List.mem_filterMap.2 ⟨note, List.mem_cons_self, inside⟩
      · rcases inductionStep later with ⟨literal, member, none⟩
        rcases List.mem_filterMap.1 member with ⟨other, among, inside⟩
        refine ⟨literal, ?_, none⟩
        exact List.mem_filterMap.2
          ⟨other, List.mem_cons_of_mem _ among, inside⟩

/-- Notes cannot be read only if a literal in them has no value. -/
theorem literal_of_ofNotes
    {direction : Direction}
    {notes : List Note}
    {error : LiteralError}
    (unread : ofNotes direction notes = .error error) :
    ∃ literal ∈ notes.filterMap literalOf?,
      literalValue literal = .error error :=
  literal_of_foldlM unread

end Remarks

end CrateShelf.Docs
