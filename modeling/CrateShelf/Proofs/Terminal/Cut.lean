import CrateShelf.Proofs.Terminal.Styled
import Mathlib.Data.Set.Card

/-!
# Cutting styled text

A style code begins with the escape character and holds no other, so that two
codes of a text never overlap.  The characters outside of all codes are the
ones that are seen.

Main statement: a text is cut into two parts, neither of which sees a code
that the text does not have; the first part is the longest one that fits.
-/

namespace CrateShelf.Terminal

variable
    {text code before after front : List Char}
    {styled : List Piece}
    {start stop count : Nat}

/-! ## Codes in a text -/

/-- A style code stands in a text, from one position up to another. -/
def IsCodeAt (text : List Char) (start stop : Nat) : Prop :=
  ∃ before code after, IsCode code ∧ text = before ++ (code ++ after) ∧
    start = before.length ∧ stop = before.length + code.length

/-- A character of a text is in none of its codes. -/
def IsOutside (text : List Char) (index : Nat) : Prop :=
  index < text.length ∧
    ∀ start stop, IsCodeAt text start stop → index < start ∨ stop ≤ index

/-- Of two codes at the start of a text, each is the other. -/
theorem IsCode.eq_of_append_eq
    {other rest : List Char}
    (isCode : IsCode code)
    (otherIsCode : IsCode other)
    (same : code ++ after = other ++ rest) :
    code = other := by
  have read : readCode? (code ++ after) = some (code, after) :=
    readCode?_eq_some_iff.2 ⟨isCode, rfl⟩
  have otherRead : readCode? (code ++ after) = some (other, rest) :=
    readCode?_eq_some_iff.2 ⟨otherIsCode, same⟩
  rw [read, Option.some.injEq, Prod.mk.injEq] at otherRead
  exact otherRead.1

/-- Only the first character of a code is an escape. -/
theorem IsCode.eq_nil_of_append
    (isCode : IsCode (before ++ escape :: after)) :
    before = [] := by
  obtain ⟨inside, plain, whole⟩ := isCode
  cases before with
  | nil => rfl
  | cons first before =>
      rw [List.cons_append, List.cons.injEq] at whole
      have member : escape ∈ '[' :: (inside ++ ['m']) := by
        rw [← whole.2]
        exact List.mem_append_right _ List.mem_cons_self
      simp only [List.mem_cons, List.mem_append, List.not_mem_nil, or_false]
        at member
      rcases member with bracket | member | letter
      · exact absurd bracket (by decide)
      · exact absurd (plain _ member) (by decide)
      · exact absurd letter (by decide)

theorem IsCode.exists_eq_cons (isCode : IsCode code) :
    ∃ rest, code = escape :: rest := by
  obtain ⟨inside, -, rfl⟩ := isCode
  exact ⟨_, rfl⟩

/-- The codes of a text that begins with one are this one and those behind
it. -/
theorem isCodeAt_code_append_iff (isCode : IsCode code) :
    IsCodeAt (code ++ text) start stop ↔
      start = 0 ∧ stop = code.length ∨
        ∃ first last, IsCodeAt text first last ∧
          start = code.length + first ∧ stop = code.length + last := by
  constructor
  · rintro ⟨before, other, after, otherIsCode, whole, rfl, rfl⟩
    rcases List.append_eq_append_iff.1 whole with
      ⟨between, rfl, behind⟩ | ⟨inside, shape, overlap⟩
    · right
      refine ⟨between.length, between.length + other.length,
        ⟨between, other, after, otherIsCode, behind, rfl, rfl⟩, ?_, ?_⟩
      · rw [List.length_append]
      · rw [List.length_append, Nat.add_assoc]
    · cases inside with
      | nil =>
          right
          rw [List.append_nil] at shape
          rw [List.nil_append] at overlap
          exact ⟨0, other.length,
            ⟨[], other, after, otherIsCode, overlap.symm, rfl, by simp⟩,
            by rw [shape, Nat.add_zero], by rw [shape]⟩
      | cons first inside =>
          left
          -- The other code begins inside of this one, hence where it begins.
          obtain ⟨rest, rfl⟩ := otherIsCode.exists_eq_cons
          rw [List.cons_append, List.cons_append, List.cons.injEq] at overlap
          rw [shape, ← overlap.1] at isCode
          obtain rfl := isCode.eq_nil_of_append
          have whole : (escape :: rest) ++ after =
              (escape :: inside) ++ text := by
            simp [overlap.2]
          have same := otherIsCode.eq_of_append_eq isCode whole
          rw [shape, List.nil_append, ← overlap.1]
          exact ⟨rfl, by rw [same]; simp⟩
  · rintro (⟨rfl, rfl⟩ |
      ⟨_, _, ⟨before, other, after, otherIsCode, rfl, rfl, rfl⟩, rfl, rfl⟩)
    · exact ⟨[], code, text, isCode, rfl, rfl, by simp⟩
    · refine ⟨code ++ before, other, after, otherIsCode, ?_, ?_, ?_⟩
      · rw [List.append_assoc]
      · rw [List.length_append]
      · rw [List.length_append, Nat.add_assoc]

/-- The codes of a text that does not begin with one are those behind its
first character. -/
theorem isCodeAt_cons_iff
    {char : Char}
    (unread : readCode? (char :: text) = none) :
    IsCodeAt (char :: text) start stop ↔
      ∃ first last, IsCodeAt text first last ∧
        start = first + 1 ∧ stop = last + 1 := by
  constructor
  · rintro ⟨before, code, after, isCode, whole, rfl, rfl⟩
    cases before with
    | nil =>
        rw [readCode?_eq_some_iff.2 ⟨isCode, whole⟩] at unread
        cases unread
    | cons first before =>
        rw [List.cons_append, List.cons.injEq] at whole
        refine ⟨before.length, before.length + code.length,
          ⟨before, code, after, isCode, whole.2, rfl, rfl⟩, rfl, ?_⟩
        rw [List.length_cons, Nat.add_right_comm]
  · rintro ⟨_, _, ⟨before, code, after, isCode, rfl, rfl, rfl⟩, rfl, rfl⟩
    refine ⟨char :: before, code, after, isCode, rfl, rfl, ?_⟩
    rw [List.length_cons, Nat.add_right_comm]

/-! ## What is seen -/

theorem setOf_isOutside_code_append
    (isCode : IsCode code)
    (text : List Char) :
    {index | IsOutside (code ++ text) index} =
      (code.length + ·) '' {index | IsOutside text index} := by
  ext index
  simp only [IsOutside, Set.mem_ofPred_eq, Set.mem_image,
    isCodeAt_code_append_iff isCode, List.length_append]
  constructor
  · rintro ⟨within, outside⟩
    have behind : code.length ≤ index :=
      (outside 0 code.length (.inl ⟨rfl, rfl⟩)).resolve_left (Nat.not_lt_zero _)
    refine ⟨index - code.length, ⟨by omega, ?_⟩, by omega⟩
    intro start stop isCodeAt
    have apart := outside _ _ (.inr ⟨start, stop, isCodeAt, rfl, rfl⟩)
    omega
  · rintro ⟨index, ⟨within, outside⟩, rfl⟩
    refine ⟨by omega, ?_⟩
    rintro _ _ (⟨rfl, rfl⟩ | ⟨start, stop, isCodeAt, rfl, rfl⟩)
    · exact .inr (Nat.le_add_right _ _)
    · have apart := outside start stop isCodeAt
      omega

theorem setOf_isOutside_cons
    {char : Char}
    (unread : readCode? (char :: text) = none) :
    {index | IsOutside (char :: text) index} =
      insert 0 ((· + 1) '' {index | IsOutside text index}) := by
  ext index
  simp only [IsOutside, Set.mem_ofPred_eq, Set.mem_insert_iff, Set.mem_image,
    isCodeAt_cons_iff unread, List.length_cons]
  constructor
  · rintro ⟨within, outside⟩
    cases index with
    | zero => exact .inl rfl
    | succ index =>
        refine .inr ⟨index, ⟨by omega, ?_⟩, rfl⟩
        intro start stop isCodeAt
        have apart := outside _ _ ⟨start, stop, isCodeAt, rfl, rfl⟩
        omega
  · rintro (rfl | ⟨index, ⟨within, outside⟩, rfl⟩)
    · refine ⟨by omega, ?_⟩
      rintro _ _ ⟨start, stop, isCodeAt, rfl, rfl⟩
      exact .inl (Nat.succ_pos _)
    · refine ⟨by omega, ?_⟩
      rintro _ _ ⟨start, stop, isCodeAt, rfl, rfl⟩
      have apart := outside start stop isCodeAt
      omega

theorem finite_setOf_isOutside (text : List Char) :
    {index | IsOutside text index}.Finite :=
  (Set.finite_lt_nat text.length).subset fun _ outside => outside.1

/-- A text takes as many columns as it has characters outside of codes. -/
theorem width_eq_ncard (text : List Char) :
    width text = {index | IsOutside text index}.ncard := by
  fun_induction pieces text with
  | case1 text code rest read inductionStep =>
      obtain ⟨isCode, rfl⟩ := readCode?_eq_some_iff.1 read
      rw [width_code_append isCode, setOf_isOutside_code_append isCode,
        Set.ncard_image_of_injective _ (add_right_injective code.length)]
      exact inductionStep
  | case2 =>
      have none_ : {index | IsOutside [] index} = ∅ :=
        Set.eq_empty_of_forall_notMem fun index outside =>
          absurd outside.1 (Nat.not_lt_zero index)
      rw [width_nil, none_, Set.ncard_empty]
  | case3 char rest unread inductionStep =>
      rw [width_cons_of_none unread, setOf_isOutside_cons unread,
        Set.ncard_insert_of_notMem (by simp)
          ((finite_setOf_isOutside rest).image _),
        Set.ncard_image_of_injective _ (add_left_injective 1), inductionStep]

/-! ## What is cut -/

/-- The part of a text that is cut off. -/
def cutOff (count : Nat) (text : List Char) : List Char :=
  written (dropVisible count (pieces text))

theorem cut_append_cutOff (count : Nat) (text : List Char) :
    cut count text ++ cutOff count text = text := by
  rw [cut, cutOff, ← written_append, takeVisible_append_dropVisible,
    written_pieces]

theorem width_cut (count : Nat) (text : List Char) :
    width (cut count text) = min (width text) count := by
  rw [cut, ((isRead_pieces text).takeVisible count).width_written,
    length_visibleOf_takeVisible, Nat.min_comm]
  rfl

theorem width_cut_add_width_cutOff (count : Nat) (text : List Char) :
    width (cut count text) + width (cutOff count text) = width text := by
  rw [cut, cutOff, ((isRead_pieces text).takeVisible count).width_written,
    ((isRead_pieces text).dropVisible count).width_written,
    ← List.length_append, visibleOf, visibleOf, ← List.filterMap_append,
    takeVisible_append_dropVisible]
  rfl

/-- Where pieces are divided, no code stands on both sides. -/
theorem IsRead.apart_of_isCodeAt
    {left right : List Piece}
    (isRead : IsRead (left ++ right))
    (isCodeAt : IsCodeAt (written (left ++ right)) start stop) :
    (written left).length ≤ start ∨ stop ≤ (written left).length := by
  induction left generalizing start stop with
  | nil => exact .inl (Nat.zero_le _)
  | cons piece left inductionStep =>
      rw [List.cons_append] at isRead isCodeAt
      rw [written_cons] at isCodeAt ⊢
      rw [List.length_append]
      cases piece with
      | code code =>
          obtain ⟨isCode, others⟩ := isRead_code_cons_iff.1 isRead
          rcases (isCodeAt_code_append_iff isCode).1 isCodeAt with
            ⟨rfl, rfl⟩ | ⟨first, last, behind, rfl, rfl⟩
          · exact .inr (Nat.le_add_right _ _)
          · have apart := inductionStep others behind
            rw [Piece.text]
            omega
      | visible char =>
          obtain ⟨unread, others⟩ := isRead_visible_cons_iff.1 isRead
          obtain ⟨first, last, behind, rfl, rfl⟩ :=
            (isCodeAt_cons_iff unread).1 isCodeAt
          have apart := inductionStep others behind
          rw [Piece.text, List.length_singleton]
          omega

theorem readCode?_eq_none_of_isPrefix
    (unread : readCode? text = none)
    (leads : front <+: text) :
    readCode? front = none := by
  by_contra read
  obtain ⟨⟨code, rest⟩, read⟩ := Option.ne_none_iff_exists'.1 read
  obtain ⟨isCode, rfl⟩ := readCode?_eq_some_iff.1 read
  obtain ⟨more, rfl⟩ := leads
  rw [List.append_assoc, readCode?_eq_some_iff.2 ⟨isCode, rfl⟩] at unread
  cases unread

/-- A beginning of a text that fits goes no further than the text that is
cut. -/
theorem isPrefix_takeVisible
    (isRead : IsRead styled)
    (leads : front <+: written styled)
    (fits : width front ≤ count) :
    front <+: written (takeVisible count styled) := by
  fun_induction takeVisible count styled generalizing front with
  | case1 count => exact leads
  | case2 count code rest inductionStep =>
      obtain ⟨isCode, others⟩ := isRead_code_cons_iff.1 isRead
      rw [written_cons, Piece.text] at leads ⊢
      obtain ⟨behind, whole⟩ := leads
      rcases List.append_eq_append_iff.1 whole with
        ⟨inside, rfl, -⟩ | ⟨more, rfl, further⟩
      · rw [List.append_assoc]
        exact List.prefix_append _ _
      · rw [width_code_append isCode] at fits
        rw [List.prefix_append_right_inj]
        exact inductionStep others ⟨behind, further.symm⟩ fits
  | case3 char rest =>
      obtain ⟨unread, -⟩ := isRead_visible_cons_iff.1 isRead
      cases front with
      | nil => exact List.nil_prefix
      | cons first front =>
          obtain ⟨rfl, -⟩ := List.cons_prefix_cons.1 leads
          rw [width_cons_of_none
            (readCode?_eq_none_of_isPrefix unread leads)] at fits
          omega
  | case4 count char rest inductionStep =>
      obtain ⟨unread, others⟩ := isRead_visible_cons_iff.1 isRead
      cases front with
      | nil => exact List.nil_prefix
      | cons first front =>
          obtain ⟨rfl, further⟩ := List.cons_prefix_cons.1 leads
          rw [width_cons_of_none
            (readCode?_eq_none_of_isPrefix unread leads)] at fits
          exact List.cons_prefix_cons.2
            ⟨rfl, inductionStep others further (Nat.le_of_succ_le_succ fits)⟩

/--
A text is cut into two parts: the first takes the columns asked for, as far as
there are so many, and the other one takes the rest.  No code of the text is
cut in two, and any beginning of the text that fits is one of the first part.
Columns are taken by the characters outside of all codes.
-/
theorem cut_divides (count : Nat) (text : List Char) :
    ∃ rest, text = cut count text ++ rest ∧
      width (cut count text) = min (width text) count ∧
      width rest = width text - width (cut count text) ∧
      (∀ start stop, IsCodeAt text start stop →
        (cut count text).length ≤ start ∨
          stop ≤ (cut count text).length) ∧
      (∀ front, front <+: text → width front ≤ count →
        front <+: cut count text) ∧
      width text = {index | IsOutside text index}.ncard := by
  have isRead := isRead_pieces text
  refine ⟨cutOff count text, (cut_append_cutOff count text).symm,
    width_cut count text, ?_, ?_, ?_, width_eq_ncard text⟩
  · exact Nat.eq_sub_of_add_eq'
      (width_cut_add_width_cutOff count text)
  · intro start stop isCodeAt
    rw [← takeVisible_append_dropVisible count (pieces text)] at isRead
    rw [← written_pieces text,
      ← takeVisible_append_dropVisible count (pieces text)] at isCodeAt
    exact isRead.apart_of_isCodeAt isCodeAt
  · intro front leads fits
    rw [← written_pieces text] at leads
    exact isPrefix_takeVisible isRead leads fits

end CrateShelf.Terminal
