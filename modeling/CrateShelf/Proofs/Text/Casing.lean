import CrateShelf.Text.Casing

/-!
# What casing leaves alone

The tilde is the folded form of no other character, so that it is found in a
folded text exactly where it stood before.  Only a capital sigma looks at its
neighbours when it is lower-cased.

Main statements: where a tilde stands in a folded text, one stood before; and
without a capital sigma, the lower-cased beginning of a text is the beginning
of the lower-cased text.
-/

namespace CrateShelf.Text

/-! ## Folded texts -/

/-- Whether no code point from 128 on is moved to the tilde by a shift. -/
def Shift.isClear (shift : Shift) : Bool :=
  shift.start + (shift.count - 1) * shift.stride < 128 ||
    126 < shift.start + shift.distance ||
    (shift.start + (shift.count - 1) * shift.stride : Nat) + shift.distance <
      126

theorem isClear_foldShifts :
    ∀ shift ∈ foldShifts, shift.isClear = true := by
  decide +kernel

theorem le_of_covers
    {shift : Shift}
    {code : Nat}
    (covered : shift.covers code = true) :
    shift.start ≤ code ∧
      code ≤ shift.start + (shift.count - 1) * shift.stride := by
  simp only [Shift.covers, Bool.and_eq_true, decide_eq_true_eq, beq_iff_eq]
    at covered
  obtain ⟨⟨after, aligned⟩, before⟩ := covered
  refine ⟨after, ?_⟩
  have steps :
      (code - shift.start) / shift.stride * shift.stride =
        code - shift.start :=
    Nat.div_mul_cancel (Nat.dvd_of_mod_eq_zero aligned)
  have within :
      (code - shift.start) / shift.stride * shift.stride ≤
        (shift.count - 1) * shift.stride :=
    Nat.mul_le_mul_right shift.stride (by omega)
  omega

theorem toNat_eq_of_ofNat_eq_tilde
    {code : Nat}
    (same : Char.ofNat code = '~') :
    code = 126 := by
  by_cases valid : code.isValidChar
  · have value : (Char.ofNat code).toNat = code := by
      rw [Char.ofNat, dif_pos valid]
      rfl
    rw [← value, same]
    rfl
  · rw [Char.ofNat, dif_neg valid] at same
    exact absurd same (by decide)

/-- No character beyond the first 128 is shifted to the tilde. -/
theorem applyShifts_ne_tilde
    {char : Char}
    (beyond : 128 ≤ char.toNat) :
    applyShifts foldShifts char ≠ '~' := by
  intro same
  unfold applyShifts at same
  split at same
  · rename_i shift found
    have clear :=
      isClear_foldShifts shift (List.mem_of_find?_eq_some found)
    have covered : shift.covers char.toNat = true := by
      simpa using List.find?_some found
    have reach := le_of_covers covered
    have code := toNat_eq_of_ofNat_eq_tilde same
    simp only [Shift.isClear, Bool.or_eq_true, decide_eq_true_eq] at clear
    simp only [Int.ofNat_eq_natCast] at code
    omega
  · rw [same] at beyond
    exact absurd beyond (by decide)

theorem foldExpansions_clear :
    ∀ known ∈ foldExpansions, '~' ∉ known.2.map Char.ofNat := by
  decide +kernel

/-- Only the tilde is folded to a tilde. -/
theorem eq_tilde_of_mem_foldChar
    {char : Char}
    (member : '~' ∈ foldChar char) :
    char = '~' := by
  unfold foldChar at member
  split at member
  · rename_i small
    have all : ∀ code < 128,
        (Char.ofNat code).toLower = '~' → Char.ofNat code = '~' := by
      decide
    have lowered : char.toLower = '~' := (List.mem_singleton.1 member).symm
    have folded := all char.toNat small
    rw [Char.ofNat_toNat] at folded
    exact folded lowered
  · rename_i beyond
    split at member
    · rename_i codes found
      obtain ⟨before, after, shape, _⟩ := List.lookup_eq_some_iff.1 found
      have known : (char.toNat, codes) ∈ foldExpansions := by
        rw [shape]
        simp
      exact absurd member (foldExpansions_clear _ known)
    · exact absurd (List.mem_singleton.1 member).symm
        (applyShifts_ne_tilde (Nat.not_lt.1 beyond))

/-- Where a tilde stands in a folded text, one stood before. -/
@[simp]
theorem mem_foldCase_tilde (text : List Char) :
    '~' ∈ foldCase text ↔ '~' ∈ text := by
  constructor
  · intro member
    obtain ⟨char, original, folded⟩ := List.mem_flatMap.1 member
    exact eq_tilde_of_mem_foldChar folded ▸ original
  · intro member
    exact List.mem_flatMap.2 ⟨'~', member, by decide⟩

@[simp]
theorem foldCase_append (before after : List Char) :
    foldCase (before ++ after) = foldCase before ++ foldCase after :=
  List.flatMap_append

theorem foldCase_tilde_cons (text : List Char) :
    foldCase ('~' :: text) = '~' :: foldCase text := rfl

/-- A text of characters that stay as they are stays as it is. -/
theorem foldCase_of_kept
    {text : List Char}
    (kept : ∀ char ∈ text, foldChar char = [char]) :
    foldCase text = text := by
  induction text with
  | nil => rfl
  | cons char text inductionStep =>
      rw [List.forall_mem_cons] at kept
      rw [foldCase, List.flatMap_cons, kept.1, ← foldCase,
        inductionStep kept.2, List.singleton_append]

/-! ## Lower-cased texts -/

theorem lowerBetween_ne_nil
    (before : List Char)
    (char : Char)
    (after : List Char) :
    lowerBetween before char after ≠ [] := by
  unfold lowerBetween
  split
  · exact List.cons_ne_nil _ _
  · split
    · split <;> exact List.cons_ne_nil _ _
    · split <;> exact List.cons_ne_nil _ _

@[simp]
theorem lower_nil : lower [] = [] := rfl

@[simp]
theorem lower_eq_nil_iff (text : List Char) :
    lower text = [] ↔ text = [] := by
  cases text with
  | nil => simp
  | cons char rest =>
      simp [lower, lowerAfter, lowerBetween_ne_nil]

/-- What is not a capital sigma has one lower-case form. -/
theorem lowerBetween_of_ne
    {char : Char}
    (plain : char ≠ 'Σ')
    (before after : List Char) :
    lowerBetween before char after = lowerBetween [] char [] := by
  simp only [lowerBetween, if_neg plain]

/-- A beginning without a capital sigma is lower-cased character by
character. -/
theorem lowerAfter_append
    {first : List Char}
    (plain : 'Σ' ∉ first)
    (before second : List Char) :
    lowerAfter before (first ++ second) =
      first.flatMap (fun char => lowerBetween [] char []) ++
        lowerAfter (first.reverse ++ before) second := by
  induction first generalizing before with
  | nil => rfl
  | cons char first inductionStep =>
      rw [List.mem_cons, not_or] at plain
      have here := lowerBetween_of_ne (Ne.symm plain.1) before (first ++ second)
      rw [List.cons_append, lowerAfter, here, inductionStep plain.2]
      simp

/-- The lower-cased beginning of a text is the beginning of the lower-cased
text if it is without a capital sigma. -/
theorem lower_prefix_lower
    {first : List Char}
    (plain : 'Σ' ∉ first)
    (second : List Char) :
    lower first <+: lower (first ++ second) := by
  have alone := lowerAfter_append plain [] []
  have together := lowerAfter_append plain [] second
  rw [List.append_nil, lowerAfter, List.append_nil] at alone
  rw [lower, alone, lower, together]
  exact List.prefix_append _ _

end CrateShelf.Text
