import CrateShelf.FileName
import CrateShelf.Proofs.Text.Lines

/-!
# Reading names back from file names

The written form of a name is made of letters, digits, per cent signs,
semicolons and characters from U+0100 on.  So the marks that a file name is
cut at, its dots and its slashes never come from a name.

Main statement: reading a written name gives the name back.
-/

namespace CrateShelf

namespace Text

/-! ## Cutting at marks -/

theorem afterLast?_of_not_mem
    {mark : Char}
    {text : List Char}
    (absent : mark ∉ text) :
    afterLast? mark text = none := if_neg absent

/-- What stands after a mark is what is after the last one, if no mark comes
later. -/
theorem afterLast?_append
    {mark : Char}
    {after : List Char}
    (before : List Char)
    (absent : mark ∉ after) :
    afterLast? mark (before ++ mark :: after) = some after := by
  have others : ∀ char ∈ after.reverse, (char != mark) = true := by
    intro char member
    rw [List.mem_reverse] at member
    rw [bne_iff_ne]
    rintro rfl
    exact absent member
  unfold afterLast?
  rw [if_pos (by simp)]
  simp [List.takeWhile_append_of_pos others]

theorem cutFirst_of_not_mem
    {mark : Char}
    {text : List Char}
    (absent : mark ∉ text) :
    cutFirst mark text = (text, none) := by
  induction text with
  | nil => rfl
  | cons char text inductionStep =>
      rw [List.mem_cons, not_or] at absent
      have different : ¬ char = mark := fun same => absent.1 same.symm
      rw [cutFirst, if_neg different, inductionStep absent.2]

theorem cutFirst_append
    {mark : Char}
    {before : List Char}
    (absent : mark ∉ before)
    (after : List Char) :
    cutFirst mark (before ++ mark :: after) = (before, some after) := by
  induction before with
  | nil => simp [cutFirst]
  | cons char before inductionStep =>
      rw [List.mem_cons, not_or] at absent
      have different : ¬ char = mark := fun same => absent.1 same.symm
      rw [List.cons_append, cutFirst, if_neg different,
        inductionStep absent.2]

/-- What is cut is put together again with the mark. -/
theorem eq_append_of_cutFirst
    {mark : Char}
    {text before after : List Char}
    (cut : cutFirst mark text = (before, some after)) :
    text = before ++ mark :: after := by
  induction text generalizing before with
  | nil => cases cut
  | cons char text inductionStep =>
      rw [cutFirst] at cut
      split at cut
      · rename_i same
        cases cut
        rw [same]
        rfl
      · rcases Prod.mk.inj cut with ⟨rfl, later⟩
        rw [List.cons_append, ← inductionStep (Prod.ext rfl later)]

/-- An ending that was put to a text can be taken off again. -/
theorem dropEnding_append (text ending : List Char) :
    dropEnding ending (text ++ ending) = text := by
  unfold dropEnding
  rw [if_pos (List.isSuffixOf_iff_suffix.2 (List.suffix_append text ending))]
  simp

end Text

namespace FileName

/-! ## Written characters -/

theorem hexValue?_hexDigit
    {value : Nat}
    (small : value < 16) :
    hexValue? (hexDigit value) = some value := by
  have all : ∀ value < 16, hexValue? (hexDigit value) = some value := by
    decide
  exact all value small

theorem isPlain_hexDigit
    {value : Nat}
    (small : value < 16) :
    isPlain (hexDigit value) = true := by
  have all : ∀ value < 16, isPlain (hexDigit value) = true := by
    decide
  exact all value small

theorem toNat_lt_of_not_isPlain
    {char : Char}
    (escaped : isPlain char ≠ true) :
    char.toNat < 256 := by
  rw [isPlain, ne_eq, Bool.or_eq_true, not_or, decide_eq_true_eq] at escaped
  omega

/-- The characters of written names. -/
theorem isPlain_of_mem_encodeChars
    {char : Char}
    {name : List Char}
    (member : char ∈ encodeChars name) :
    isPlain char = true ∨ char = '%' ∨ char = ';' := by
  obtain ⟨original, _, written⟩ := List.mem_flatMap.1 member
  unfold encodeChar at written
  split at written
  · rename_i plain
    rw [List.mem_singleton] at written
    rw [written]
    exact Or.inl plain
  · rename_i escaped
    have small := toNat_lt_of_not_isPlain escaped
    have upper : original.toNat / 16 < 16 := by omega
    have lower : original.toNat % 16 < 16 := by omega
    simp only [List.mem_cons, List.not_mem_nil, or_false] at written
    rcases written with rfl | rfl | rfl | rfl | rfl
    · exact Or.inr (Or.inl rfl)
    · exact Or.inl (by decide)
    · exact Or.inl (isPlain_hexDigit upper)
    · exact Or.inl (isPlain_hexDigit lower)
    · exact Or.inr (Or.inr rfl)

/-- No mark comes from a name, unless it is of those characters. -/
theorem not_mem_encode
    {mark : Char}
    (special : (isPlain mark || mark == '%' || mark == ';') = false)
    (name : String) :
    mark ∉ (encode name).toList := by
  intro member
  rw [encode, String.toList_ofList] at member
  rcases isPlain_of_mem_encodeChars member with plain | rfl | rfl
  · simp [plain] at special
  · simp at special
  · simp at special

theorem encode_eq_empty_iff (name : String) :
    encode name = "" ↔ name = "" := by
  constructor
  · intro empty
    have nothing : encodeChars name.toList = [] := by
      rw [encode] at empty
      simpa using empty
    cases chars : name.toList with
    | nil => simpa using chars
    | cons char rest =>
        rw [chars, encodeChars, List.flatMap_cons, List.append_eq_nil_iff]
          at nothing
        have written := nothing.1
        unfold encodeChar at written
        split at written
        · cases written
        · cases written
  · rintro rfl
    rfl

/-! ## Reading -/

theorem decodeFrom_cons
    {char : Char}
    (plain : char ≠ '%')
    (offset : Nat)
    (rest : List Char) :
    decodeFrom offset (char :: rest) =
      (decodeFrom (offset + 1) rest).map (char :: ·) := by
  rw [decodeFrom]
  intro same
  exact plain same

/-- A written character is read back, and then what follows it. -/
theorem decodeFrom_encodeChar
    (char : Char)
    (offset : Nat)
    (rest : List Char) :
    ∃ next,
      decodeFrom offset (encodeChar char ++ rest) =
        (decodeFrom next rest).map (char :: ·) := by
  unfold encodeChar
  split
  · rename_i plain
    refine ⟨offset + 1, decodeFrom_cons ?_ offset rest⟩
    rintro rfl
    revert plain
    decide
  · rename_i escaped
    have small := toNat_lt_of_not_isPlain escaped
    have upper : char.toNat / 16 < 16 := by omega
    have lower : char.toNat % 16 < 16 := by omega
    have whole : char.toNat / 16 * 16 + char.toNat % 16 = char.toNat := by
      omega
    refine ⟨offset + 5, ?_⟩
    simp only [List.cons_append, List.nil_append, decodeFrom,
      hexValue?_hexDigit upper, hexValue?_hexDigit lower, whole,
      Char.ofNat_toNat]

theorem decodeFrom_encodeChars
    (name : List Char)
    (offset : Nat) :
    decodeFrom offset (encodeChars name) = .ok name := by
  induction name generalizing offset with
  | nil => rfl
  | cons char name inductionStep =>
      rw [encodeChars, List.flatMap_cons]
      obtain ⟨next, read⟩ :=
        decodeFrom_encodeChar char offset (name.flatMap encodeChar)
      rw [read, ← encodeChars, inductionStep]
      rfl

/-- Reading a written name gives the name back. -/
theorem decode_of_encode (name : String) :
    decode (encode name) = .ok name := by
  unfold decode decodeChars
  rw [encode, String.toList_ofList, decodeFrom_encodeChars]
  simp

/-- Different names are written differently. -/
theorem encode_injective : Function.Injective encode := by
  intro first second same
  have read := congrArg decode same
  rw [decode_of_encode, decode_of_encode] at read
  exact Except.ok.inj read

end FileName

end CrateShelf
