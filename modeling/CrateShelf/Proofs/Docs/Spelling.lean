import CrateShelf.Proofs.Docs.Literal
import Mathlib.Data.Nat.Digits.Defs

/-!
# Ways to write a text as a string literal

Between quotes a character stands for itself, unless it is a quote or a
backslash, and any character can be written as an escape: by a letter, by two
hexadecimal digits up to the last character of ASCII, or by up to six between
braces.  A line may be broken by a backslash; the blanks that begin the next
line are skipped.  In a raw literal every character stands for itself.

Main statement: however a text is written, it is read as itself.
-/

namespace CrateShelf.Docs

variable
    {char letter digit : Char}
    {number value : Nat}
    {text written digits rest : List Char}

/-! ## Ways of writing -/

/-- Whether a hexadecimal digit, in either case, stands for a value. -/
def IsHexDigit (digit : Char) (value : Nat) : Prop :=
  value < 16 ∧ (digit = value.digitChar ∨ digit = value.digitChar.toUpper)

instance (digit : Char) (value : Nat) : Decidable (IsHexDigit digit value) :=
  inferInstanceAs (Decidable (_ ∧ _))

/-- Whether hexadecimal digits, the most significant first, write a
number. -/
def WritesHex (digits : List Char) (number : Nat) : Prop :=
  ∃ values, List.Forall₂ IsHexDigit digits values ∧
    number = Nat.ofDigits 16 values.reverse

/-- The letters that stand for a character behind a backslash, each with the
character. -/
def simpleEscapes : List (Char × Char) :=
  [('n', '\n'), ('r', '\r'), ('t', '\t'), ('\\', '\\'), ('0', '\x00'),
    ('\'', '\''), ('"', '"')]

/-- The blanks that are skipped at the beginning of a line that goes on. -/
def continuationBlanks : List Char := [' ', '\t', '\r', '\n']

/-- The ways of writing a character between quotes. -/
inductive Spells : Char → List Char → Prop where
  | plain {char : Char}
      (noQuote : char ≠ '"')
      (noBackslash : char ≠ '\\') :
      Spells char [char]
  | simple {letter char : Char}
      (known : (letter, char) ∈ simpleEscapes) :
      Spells char ['\\', letter]
  | short {high low char : Char}
      (isNumber : WritesHex [high, low] char.toNat)
      (isAscii : char.toNat ≤ 0x7F) :
      Spells char ['\\', 'x', high, low]
  | long {written : List Char} {char : Char}
      (isNumber : WritesHex (written.filter (· ≠ '_')) char.toNat)
      (some_ : 1 ≤ (written.filter (· ≠ '_')).length)
      (few : (written.filter (· ≠ '_')).length ≤ 6) :
      Spells char ('\\' :: 'u' :: '\x7b' :: (written ++ ['\x7d']))

/-- The ways of writing a text between quotes: its characters one after the
other, with lines broken where no blank stands as itself. -/
inductive SpellsText : List Char → List Char → Prop where
  | nothing : SpellsText [] []
  | next {char : Char} {spelling text written : List Char}
      (first : Spells char spelling)
      (others : SpellsText text written) :
      SpellsText (char :: text) (spelling ++ written)
  | broken {blanks text written : List Char}
      (skipped : ∀ blank ∈ blanks, blank ∈ continuationBlanks)
      (goesOn : ∀ head ∈ written.head?, head ∉ continuationBlanks)
      (others : SpellsText text written) :
      SpellsText text ('\\' :: '\n' :: (blanks ++ written))

/-! ## Numbers -/

theorem hexValue?_of_isHexDigit (isDigit : IsHexDigit digit value) :
    hexValue? digit = some value ∧ digit ≠ '\x7d' := by
  obtain ⟨small, shape⟩ := isDigit
  have lower :
      ∀ value < 16, hexValue? value.digitChar = some value ∧
        value.digitChar ≠ '\x7d' := by decide
  have upper :
      ∀ value < 16, hexValue? value.digitChar.toUpper = some value ∧
        value.digitChar.toUpper ≠ '\x7d' := by decide
  rcases shape with rfl | rfl
  · exact lower value small
  · exact upper value small

/-- Digits are read as the number that they write. -/
theorem readHex?_of_writesHex (writes : WritesHex digits number) :
    readHex? digits = some number := by
  obtain ⟨values, each, rfl⟩ := writes
  have all :
      ∀ total, digits.foldl
          (fun total digit => do
            return (← total) * 16 + (← hexValue? digit)) (some total) =
        some (total * 16 ^ values.length + Nat.ofDigits 16 values.reverse) := by
    induction each with
    | nil => simp
    | @cons digit value digits values isDigit _ inductionStep =>
        intro total
        have step :
            (do return (← some total) * 16 + (← hexValue? digit) :
              Option Nat) = some (total * 16 + value) := by
          rw [(hexValue?_of_isHexDigit isDigit).1]
          rfl
        rw [List.foldl_cons, step, inductionStep, List.reverse_cons,
          Nat.ofDigits_append, List.length_reverse, Nat.ofDigits_singleton,
          List.length_cons]
        congr 1
        ring
  simpa [readHex?] using all 0

theorem WritesHex.not_mem_brace (writes : WritesHex digits number) :
    '\x7d' ∉ digits := by
  obtain ⟨values, each, -⟩ := writes
  induction each with
  | nil => exact List.not_mem_nil
  | cons isDigit _ inductionStep =>
      rw [List.mem_cons, not_or]
      exact ⟨(hexValue?_of_isHexDigit isDigit).2.symm, inductionStep⟩

theorem pointOfNumber_toNat (char : Char) :
    pointOfNumber char.toNat = .ok (.char char) := by
  rw [pointOfNumber, CodePoint.ofNumber?_toNat]
  rfl

/-! ## Escapes -/

/-- What stands for itself is read as itself. -/
theorem unescape_cons_of_ne
    (noBackslash : char ≠ '\\')
    (rest : List Char) :
    unescape (char :: rest) =
      unescape rest >>= fun text => .ok (.char char :: text) := by
  cases rest with
  | nil =>
      rw [unescape, unescape]
      rfl
  | cons next rest =>
      rw [unescape, if_neg noBackslash]
      rfl

/-- An escape is read as what it means. -/
theorem unescape_backslash
    {next : Char}
    {meaning : List CodePoint}
    {left : List Char}
    {shorter : left.length ≤ rest.length}
    (read : readEscape next rest = .ok (meaning, ⟨left, shorter⟩)) :
    unescape ('\\' :: next :: rest) =
      unescape left >>= fun text => .ok (meaning ++ text) := by
  rw [unescape, if_pos rfl]
  split
  · rename_i failed
    rw [read] at failed
    cases failed
  · rename_i found
    rw [read] at found
    cases found
    rfl

theorem simpleEscape?_of_mem (known : (letter, char) ∈ simpleEscapes) :
    simpleEscape? letter = some char := by
  have all : ∀ pair ∈ simpleEscapes, simpleEscape? pair.1 = some pair.2 := by
    decide
  exact all _ known

theorem readEscape_simple
    (known : (letter, char) ∈ simpleEscapes)
    (rest : List Char) :
    readEscape letter rest = .ok ([.char char], ⟨rest, Nat.le_refl _⟩) := by
  unfold readEscape
  rw [simpleEscape?_of_mem known]
  rfl

theorem readEscape_short
    {high low : Char}
    (writes : WritesHex [high, low] char.toNat)
    (rest : List Char) :
    ∃ shorter, readEscape 'x' (high :: low :: rest) =
      .ok ([.char char], ⟨rest, shorter⟩) := by
  have read :
      shortNumber? (high :: low :: rest) = some (char.toNat, rest) := by
    rw [shortNumber?, readHex?_of_writesHex writes]
    rfl
  refine ⟨length_le_of_shortNumber? _ _ _ read, ?_⟩
  have noLetter : simpleEscape? 'x' = none := rfl
  unfold readEscape
  simp only [noLetter, if_true]
  split
  · rename_i number left found
    rw [read] at found
    cases found
    rw [Char.ofNat_toNat]
    rfl
  · rename_i unread
    rw [read] at unread
    cases unread

theorem longNumber?_of_writesHex
    (writes : WritesHex (written.filter (· ≠ '_')) number)
    (some_ : 1 ≤ (written.filter (· ≠ '_')).length)
    (few : (written.filter (· ≠ '_')).length ≤ 6)
    (rest : List Char) :
    longNumber? ('\x7b' :: (written ++ '\x7d' :: rest)) =
      some (number, rest) := by
  have closed : '\x7d' ∉ written := by
    intro member
    exact writes.not_mem_brace (List.mem_filter.2 ⟨member, by decide⟩)
  have same :
      written.filter (· != '_') = written.filter (· ≠ '_') := by
    congr 1
    funext char
    rw [bne, Bool.eq_iff_iff]
    simp
  rw [longNumber?, Text.cutFirst_append closed]
  simp only [same]
  rw [if_pos ⟨some_, few⟩, readHex?_of_writesHex writes]
  rfl

theorem readEscape_long
    (writes : WritesHex (written.filter (· ≠ '_')) char.toNat)
    (some_ : 1 ≤ (written.filter (· ≠ '_')).length)
    (few : (written.filter (· ≠ '_')).length ≤ 6)
    (rest : List Char) :
    ∃ shorter, readEscape 'u' ('\x7b' :: (written ++ '\x7d' :: rest)) =
      .ok ([.char char], ⟨rest, shorter⟩) := by
  have read := longNumber?_of_writesHex writes some_ few rest
  refine ⟨length_le_of_longNumber? _ _ _ read, ?_⟩
  have noLetter : simpleEscape? 'u' = none := rfl
  have notShort : ¬ 'u' = 'x' := by decide
  unfold readEscape
  simp only [noLetter, if_neg notShort, if_true]
  split
  · rename_i number left found
    rw [read] at found
    cases found
    rw [pointOfNumber_toNat]
    rfl
  · rename_i unread
    rw [read] at unread
    cases unread

/-- A broken line goes on behind the blanks. -/
theorem readEscape_lineEnd (rest : List Char) :
    ∃ shorter, readEscape '\n' rest =
      .ok ([], ⟨rest.dropWhile isContinuationBlank, shorter⟩) :=
  ⟨Text.length_dropWhile_le _ _, rfl⟩

theorem isContinuationBlank_iff :
    isContinuationBlank char = true ↔ char ∈ continuationBlanks := by
  simp [isContinuationBlank, continuationBlanks, or_assoc]

theorem dropWhile_continuation
    {blanks : List Char}
    (skipped : ∀ blank ∈ blanks, blank ∈ continuationBlanks)
    (goesOn : ∀ head ∈ written.head?, head ∉ continuationBlanks) :
    (blanks ++ written).dropWhile isContinuationBlank = written := by
  have all : ∀ blank ∈ blanks, isContinuationBlank blank = true :=
    fun blank member => isContinuationBlank_iff.2 (skipped blank member)
  rw [List.dropWhile_append_of_pos all]
  cases written with
  | nil => rfl
  | cons head written =>
      have stays := goesOn head rfl
      rw [← isContinuationBlank_iff] at stays
      exact List.dropWhile_cons_of_neg stays

/-! ## Texts -/

/-- A character that is written in whatever way is read, and what follows is
read on its own. -/
theorem Spells.unescape_append
    (spells : Spells char written)
    (rest : List Char) :
    unescape (written ++ rest) =
      unescape rest >>= fun text => .ok (.char char :: text) := by
  cases spells with
  | plain noQuote noBackslash =>
      exact unescape_cons_of_ne noBackslash rest
  | simple known =>
      exact unescape_backslash (readEscape_simple known rest)
  | short isNumber isAscii =>
      obtain ⟨shorter, read⟩ := readEscape_short isNumber rest
      exact unescape_backslash read
  | @long inside _ isNumber some_ few =>
      obtain ⟨shorter, read⟩ := readEscape_long isNumber some_ few rest
      have whole :
          '\\' :: 'u' :: '\x7b' :: (inside ++ ['\x7d']) ++ rest =
            '\\' :: 'u' :: '\x7b' :: (inside ++ '\x7d' :: rest) := by simp
      rw [whole]
      exact unescape_backslash read

/-- A text that is written in whatever way is read as itself. -/
theorem SpellsText.unescape_eq (spells : SpellsText text written) :
    unescape written = .ok (text.map .char) := by
  induction spells with
  | nothing => rw [unescape]; rfl
  | next first _ inductionStep =>
      rw [first.unescape_append, inductionStep]
      rfl
  | @broken blanks text written skipped goesOn _ inductionStep =>
      obtain ⟨shorter, read⟩ := readEscape_lineEnd (blanks ++ written)
      rw [unescape_backslash read, dropWhile_continuation skipped goesOn,
        inductionStep]
      rfl

/-! ## Literals -/

theorem trim_quoted (written : List Char) :
    Text.trim ('"' :: (written ++ ['"'])) = '"' :: (written ++ ['"']) := by
  have noBlank : Text.isBlank '"' = false := by decide
  apply Text.trim_eq_self
  · rintro _ ⟨⟩
    exact noBlank
  · intro last isLast
    rw [← List.cons_append, List.getLast?_concat] at isLast
    cases isLast
    exact noBlank

theorem literalValue_quoted (written : List Char) :
    literalValue ('"' :: (written ++ ['"'])) = unescape written := by
  have notRaw : rawText? ('"' :: (written ++ ['"'])) = none := rfl
  have quoted :
      quotedText? ('"' :: (written ++ ['"'])) = some written := by
    simp [quotedText?]
  simp only [literalValue, trim_quoted, notRaw, quoted]

/-- A raw literal: an `r`, some hash signs, and the text between quotes,
followed by as many hash signs. -/
def rawLiteral (count : Nat) (text : List Char) : List Char :=
  'r' :: (List.replicate count '#' ++
    '"' :: (text ++ '"' :: List.replicate count '#'))

theorem rawText?_rawLiteral (count : Nat) (text : List Char) :
    rawText? (rawLiteral count text) = some text := by
  have hashes : ∀ char ∈ List.replicate count '#',
      decide (char = '#') = true := by
    intro char member
    exact decide_eq_true (List.eq_of_mem_replicate member)
  have noHash : ¬ decide ('"' = '#') = true := by decide
  have taken :
      (List.replicate count '#' ++
        '"' :: (text ++ '"' :: List.replicate count '#')).takeWhile
          (· = '#') = List.replicate count '#' := by
    rw [List.takeWhile_append_of_pos hashes, List.takeWhile_cons,
      if_neg noHash, List.append_nil]
  have left :
      (List.replicate count '#' ++
        '"' :: (text ++ '"' :: List.replicate count '#')).dropWhile
          (· = '#') = '"' :: (text ++ '"' :: List.replicate count '#') := by
    rw [List.dropWhile_append_of_pos hashes, List.dropWhile_cons,
      if_neg noHash]
  simp only [rawLiteral, rawText?, taken, left]
  rw [if_pos (List.isSuffixOf_iff_suffix.2 (List.suffix_append _ _))]
  simp

theorem trim_rawLiteral (count : Nat) (text : List Char) :
    Text.trim (rawLiteral count text) = rawLiteral count text := by
  apply Text.trim_eq_self
  · rintro _ ⟨⟩
    decide
  · have among : ∀ char ∈ '"' :: List.replicate count '#',
        Text.isBlank char = false := by
      rw [List.forall_mem_cons]
      refine ⟨by decide, fun char member => ?_⟩
      rw [List.eq_of_mem_replicate member]
      decide
    intro last isLast
    apply among
    have ending :
        rawLiteral count text =
          ('r' :: (List.replicate count '#' ++ '"' :: text)) ++
            '"' :: List.replicate count '#' := by
      simp [rawLiteral]
    rw [ending, List.getLast?_append_of_ne_nil _ (List.cons_ne_nil _ _)]
      at isLast
    exact List.mem_of_getLast? isLast

/--
However a text is written between quotes, with whatever escapes and broken
lines, it is the value of the literal; and it is the value of the raw literals
of it, with any number of hash signs.
-/
theorem literalValue_spelling_and_rawLiteral
    (text : List Char) :
    (∀ written, SpellsText text written →
      literalValue ('"' :: (written ++ ['"'])) = .ok (text.map .char)) ∧
      ∀ count,
        literalValue (rawLiteral count text) = .ok (text.map .char) := by
  constructor
  · intro written spells
    rw [literalValue_quoted, spells.unescape_eq]
  · intro count
    simp only [literalValue, trim_rawLiteral, rawText?_rawLiteral]
    rfl

/-- A text with escapes of all kinds, a broken line and a space that stands as
itself. -/
def sampleSpelling : List Char :=
  ['a', '\\', '"', '\\', 'x', '4', 'a', '\\', '\n', '\t', ' ', '\\', 'u',
    '\x7b', '_', '1', 'F', '_', '6', '0', '0', '\x7d', ' ', 'b']

theorem spellsText_sampleSpelling :
    SpellsText ['a', '"', 'J', '😀', ' ', 'b'] sampleSpelling := by
  have isJ : WritesHex ['4', 'a'] 'J'.toNat :=
    ⟨[4, 10], .cons (by decide) (.cons (by decide) .nil), by decide⟩
  have isFace :
      WritesHex (['_', '1', 'F', '_', '6', '0', '0'].filter (· ≠ '_'))
        '😀'.toNat :=
    ⟨[1, 15, 6, 0, 0],
      .cons (by decide) (.cons (by decide) (.cons (by decide)
        (.cons (by decide) (.cons (by decide) .nil)))), by decide⟩
  have escaped := Spells.long isFace (by decide) (by decide)
  have space : Spells ' ' [' '] := .plain (by decide) (by decide)
  have ending : SpellsText [' ', 'b'] [' ', 'b'] :=
    .next space (.next (.plain (by decide) (by decide)) .nothing)
  have blanks : ∀ blank ∈ ['\t', ' '], blank ∈ continuationBlanks := by
    simp [continuationBlanks]
  have goingOn :=
    SpellsText.broken blanks (by rintro _ ⟨⟩; decide)
      (SpellsText.next escaped ending)
  exact .next (.plain (by decide) (by decide))
    (.next (.simple (by decide)) (.next (.short isJ (by decide)) goingOn))

theorem literalValue_sampleSpelling :
    SpellsText ['a', '"', 'J', '😀', ' ', 'b'] sampleSpelling ∧
      literalValue ('"' :: (sampleSpelling ++ ['"'])) =
        .ok (['a', '"', 'J', '😀', ' ', 'b'].map .char) :=
  ⟨spellsText_sampleSpelling,
    (literalValue_spelling_and_rawLiteral _).1 _ spellsText_sampleSpelling⟩

end CrateShelf.Docs
