import CrateShelf.Terminal.Styled
import Mathlib.Data.List.TakeWhile

/-!
# The width of styled text

Where no style code reaches from one text into the next, the pieces of the two
put together are those of each.  So it is at a space, at a line end, and
before and after a code; there the widths add up.  Elsewhere they may come to
more than the whole.

Main statement: cutting a text cuts its pieces.
-/

namespace CrateShelf.Terminal

variable
    {text first second code rest : List Char}
    {styled : List Piece}

/-! ## Codes -/

/-- Whether a text is one style code. -/
def IsCode (code : List Char) : Prop :=
  ∃ inside : List Char, (∀ char ∈ inside, isParameter char = true) ∧
    code = escape :: '[' :: (inside ++ ['m'])

theorem isCode_reset : IsCode reset :=
  ⟨['0'], List.forall_mem_singleton.2 (by decide), rfl⟩

theorem isCode_styleCode
    {parameters : String}
    (plain : parameters.toList.all isParameter = true) :
    IsCode (styleCode parameters) :=
  ⟨parameters.toList, List.all_eq_true.1 plain, rfl⟩

theorem IsCode.lineFree (isCode : IsCode code) : '\n' ∉ code := by
  obtain ⟨inside, plain, rfl⟩ := isCode
  simp only [List.mem_cons, List.mem_append, List.not_mem_nil, or_false,
    not_or]
  refine ⟨by decide, by decide, ?_, by decide⟩
  intro member
  exact absurd (plain _ member) (by decide)

/-- A code is read where it stands. -/
theorem readCode?_eq_some_iff :
    readCode? text = some (code, rest) ↔ IsCode code ∧ text = code ++ rest := by
  constructor
  · intro read
    refine ⟨?_, (append_of_readCode? text code rest read).symm⟩
    unfold readCode? at read
    split at read
    · rename_i head inside
      split at read
      · split at read
        · simp only [Option.some.injEq, Prod.mk.injEq] at read
          refine ⟨inside.takeWhile isParameter, ?_, read.1.symm⟩
          exact fun char member => List.mem_takeWhile_imp member
        · cases read
      · cases read
    · cases read
  · rintro ⟨⟨inside, plain, rfl⟩, rfl⟩
    have notParameter : isParameter 'm' = false := by decide
    simp [readCode?, List.dropWhile_append_of_pos plain,
      List.takeWhile_append_of_pos plain, notParameter]

theorem pieces_code_append
    (isCode : IsCode code)
    (text : List Char) :
    pieces (code ++ text) = .code code :: pieces text := by
  have read : readCode? (code ++ text) = some (code, text) :=
    readCode?_eq_some_iff.2 ⟨isCode, rfl⟩
  rw [pieces]
  split
  · rename_i other rest found
    rw [read] at found
    cases found
    rfl
  · rename_i unread
    rw [read] at unread
    cases unread

theorem pieces_cons_of_none
    {char : Char}
    (unread : readCode? (char :: text) = none) :
    pieces (char :: text) = .visible char :: pieces text := by
  rw [pieces]
  split
  · rename_i other rest found
    rw [unread] at found
    cases found
  · rfl

@[simp]
theorem pieces_nil : pieces [] = [] := by
  rw [pieces]
  rfl

/-! ## Texts apart -/

/-- Whether no code reaches from a text into the next. -/
def AreApart (first second : List Char) : Prop :=
  ∀ before after, before <:+ first → before ≠ [] → after <+: second →
    after ≠ [] → ¬ IsCode (before ++ after)

/-- A code that is read only where a text is followed by another reaches into
that. -/
theorem exists_across_of_readCode?
    (unread : readCode? first = none)
    (read : readCode? (first ++ second) = some (code, rest)) :
    ∃ across, across ≠ [] ∧ code = first ++ across ∧
      second = across ++ rest := by
  obtain ⟨isCode, whole⟩ := readCode?_eq_some_iff.1 read
  have inFirst : ∀ left, first ≠ code ++ left := by
    intro left same
    have alsoRead := readCode?_eq_some_iff.2 ⟨isCode, same⟩
    rw [unread] at alsoRead
    cases alsoRead
  rcases List.append_eq_append_iff.1 whole with
    ⟨across, same, sameRest⟩ | ⟨left, same, -⟩
  · refine ⟨across, ?_, same, sameRest⟩
    rintro rfl
    exact inFirst [] (by simp [same])
  · exact absurd same (inFirst left)

/-- No code begins in front of a text where none does without it. -/
theorem AreApart.readCode?_eq_none
    (apart : AreApart first second)
    (some_ : first ≠ [])
    (unread : readCode? first = none) :
    readCode? (first ++ second) = none := by
  by_contra read
  obtain ⟨⟨code, rest⟩, read⟩ := Option.ne_none_iff_exists'.1 read
  obtain ⟨across, acrossSome, rfl, rfl⟩ :=
    exists_across_of_readCode? unread read
  exact apart first across (List.suffix_refl _) some_
    (List.prefix_append _ _) acrossSome (readCode?_eq_some_iff.1 read).1

/-- The pieces of texts that are apart are those of each. -/
theorem pieces_append (apart : AreApart first second) :
    pieces (first ++ second) = pieces first ++ pieces second := by
  fun_induction pieces first with
  | case1 text code rest read inductionStep =>
      obtain ⟨isCode, rfl⟩ := readCode?_eq_some_iff.1 read
      rw [List.append_assoc, pieces_code_append isCode, inductionStep]
      · rfl
      · exact fun before after inside =>
          apart before after (inside.trans (List.suffix_append _ _))
  | case2 => rfl
  | case3 char rest unread inductionStep =>
      have alsoUnread := apart.readCode?_eq_none (List.cons_ne_nil _ _) unread
      rw [List.cons_append] at alsoUnread ⊢
      rw [pieces_cons_of_none alsoUnread, inductionStep]
      · rfl
      · exact fun before after inside =>
          apart before after (inside.trans (List.suffix_cons _ _))

/-- Whether a code can go on after a character. -/
def isOpening (char : Char) : Bool :=
  char = escape || char = '[' || isParameter char

/-- Whether a code can go on with a character. -/
def isGoingOn (char : Char) : Bool :=
  char = '[' || isParameter char || char = 'm'

/-- A code that reaches over a border can go on there. -/
theorem IsCode.border
    {last head : Char}
    {before after : List Char}
    (isCode : IsCode (before ++ last :: head :: after)) :
    isOpening last = true ∧ isGoingOn head = true := by
  obtain ⟨inside, plain, whole⟩ := isCode
  constructor
  · have member : last ∈ (before ++ last :: head :: after).dropLast := by
      rw [List.dropLast_append_cons, List.dropLast_cons_cons]
      exact List.mem_append_right _ List.mem_cons_self
    rw [whole, ← List.cons_append, ← List.cons_append,
      List.dropLast_concat, List.mem_cons, List.mem_cons] at member
    unfold isOpening
    rcases member with rfl | rfl | member
    · decide
    · decide
    · simp [plain last member]
  · have member : head ∈ (before ++ last :: head :: after).tail := by
      cases before with
      | nil => exact List.mem_cons_self
      | cons _ before =>
          exact List.mem_append_right _
            (List.mem_cons_of_mem _ List.mem_cons_self)
    rw [whole, List.tail_cons, List.mem_cons, List.mem_append,
      List.mem_singleton] at member
    unfold isGoingOn
    rcases member with rfl | member | rfl
    · decide
    · simp [plain head member]
    · decide

/-- No code reaches over a border where none can go on. -/
theorem areApart_of_border
    (border : (∀ last ∈ first.getLast?, isOpening last = false) ∨
      ∀ head ∈ second.head?, isGoingOn head = false) :
    AreApart first second := by
  intro before after inFirst beforeSome inSecond afterSome isCode
  obtain ⟨left, rfl⟩ := inFirst
  obtain ⟨right, rfl⟩ := inSecond
  obtain ⟨before, last, rfl⟩ :=
    (List.eq_nil_or_concat before).resolve_left beforeSome
  obtain ⟨head, after, rfl⟩ := List.exists_cons_of_ne_nil afterSome
  rw [List.concat_eq_append, List.append_assoc, List.singleton_append]
    at isCode
  obtain ⟨opening, goingOn⟩ := isCode.border
  rcases border with closed | closed
  · have last := closed last (by simp)
    rw [opening] at last
    cases last
  · have head := closed head (by simp)
    rw [goingOn] at head
    cases head

/-! ## Width -/

@[simp]
theorem width_nil : width [] = 0 := by
  rw [width, visible, pieces_nil]
  rfl

theorem width_append (apart : AreApart first second) :
    width (first ++ second) = width first + width second := by
  rw [width, visible, pieces_append apart, visibleOf, List.filterMap_append,
    List.length_append]
  rfl

/-- A code takes no columns. -/
theorem width_code_append
    (isCode : IsCode code)
    (text : List Char) :
    width (code ++ text) = width text := by
  rw [width, visible, pieces_code_append isCode, visibleOf_code]
  rfl

theorem width_append_code
    (isCode : IsCode code)
    (text : List Char) :
    width (text ++ code) = width text := by
  have apart : AreApart text code := by
    apply areApart_of_border
    right
    obtain ⟨inside, -, rfl⟩ := isCode
    rintro _ ⟨⟩
    decide
  have alone := width_code_append isCode []
  rw [List.append_nil, width_nil] at alone
  rw [width_append apart, alone, Nat.add_zero]

/-- A text in a style is as wide as without. -/
theorem width_inStyle
    {parameters : String}
    (plain : parameters.toList.all isParameter = true)
    (colored : Bool)
    (text : List Char) :
    width (inStyle colored parameters text) = width text := by
  cases colored with
  | false => rfl
  | true =>
      have styled :
          inStyle true parameters text =
            styleCode parameters ++ (text ++ reset) := by
        rw [← List.append_assoc]
        rfl
      rw [styled, width_code_append (isCode_styleCode plain),
        width_append_code isCode_reset]

theorem lineFree_inStyle
    {parameters : String}
    (plain : parameters.toList.all isParameter = true)
    (colored : Bool)
    (lineFree : '\n' ∉ text) :
    '\n' ∉ inStyle colored parameters text := by
  cases colored with
  | false => exact lineFree
  | true =>
      rw [inStyle, if_pos rfl, List.mem_append, List.mem_append]
      exact not_or_intro
        (not_or_intro (isCode_styleCode plain).lineFree lineFree)
        isCode_reset.lineFree

/-- Nothing goes on where a code ends. -/
theorem IsCode.width_append
    {before after : List Char}
    (isCode : IsCode (before ++ after))
    (text : List Char) :
    width (after ++ text) = width after + width text := by
  apply Terminal.width_append
  apply areApart_of_border
  left
  intro last isLast
  obtain ⟨inside, -, whole⟩ := isCode
  have sameLast := congrArg List.getLast? whole
  rw [List.getLast?_append, Option.mem_def.1 isLast, Option.some_or,
    ← List.cons_append, ← List.cons_append, List.getLast?_concat] at sameLast
  cases sameLast
  decide

theorem width_cons_of_none
    {char : Char}
    (unread : readCode? (char :: text) = none) :
    width (char :: text) = width text + 1 := by
  rw [width, visible, pieces_cons_of_none unread]
  rfl

/-- A code may reach from a text into the next, but then it takes columns off
them. -/
theorem width_append_le (first second : List Char) :
    width (first ++ second) ≤ width first + width second := by
  fun_induction pieces first with
  | case1 text code rest read inductionStep =>
      obtain ⟨isCode, rfl⟩ := readCode?_eq_some_iff.1 read
      rw [List.append_assoc, width_code_append isCode,
        width_code_append isCode]
      exact inductionStep
  | case2 => exact Nat.le_add_left _ _
  | case3 char rest unread inductionStep =>
      rw [width_cons_of_none unread]
      cases read : readCode? (char :: rest ++ second) with
      | none =>
          rw [List.cons_append] at read
          rw [List.cons_append, width_cons_of_none read]
          omega
      | some found =>
          obtain ⟨across, -, code, inside⟩ :=
            exists_across_of_readCode? unread read
          obtain ⟨isCode, whole⟩ := readCode?_eq_some_iff.1 read
          rw [whole, width_code_append isCode, inside]
          rw [code] at isCode
          rw [isCode.width_append]
          omega

/-- A character takes at most one column. -/
theorem width_cons_le (char : Char) (text : List Char) :
    width (char :: text) ≤ width text + 1 := by
  have alone : width [char] = 1 := by
    rw [width_cons_of_none rfl, width_nil]
  rw [← List.singleton_append, Nat.add_comm, ← alone]
  exact width_append_le [char] text

/-- A text takes at most as many columns as it has characters. -/
theorem width_le_length (text : List Char) : width text ≤ text.length := by
  induction text with
  | nil => rw [width_nil]; exact Nat.zero_le _
  | cons char text inductionStep =>
      rw [List.length_cons]
      exact (width_cons_le char text).trans (Nat.succ_le_succ inductionStep)

/-- A character that is part of no code takes a column. -/
theorem width_cons_of_not_isOpening
    {char : Char}
    (closed : isOpening char = false)
    (text : List Char) :
    width (char :: text) = width text + 1 := by
  apply width_cons_of_none
  by_contra read
  obtain ⟨⟨code, rest⟩, read⟩ := Option.ne_none_iff_exists'.1 read
  obtain ⟨⟨inside, -, rfl⟩, whole⟩ := readCode?_eq_some_iff.1 read
  rw [List.cons_append, List.cons.injEq] at whole
  rw [whole.1] at closed
  exact absurd closed (by decide)

theorem width_replicate
    {char : Char}
    (closed : isOpening char = false)
    (count : Nat) :
    width (List.replicate count char) = count := by
  induction count with
  | zero => exact width_nil
  | succ count inductionStep =>
      rw [List.replicate_succ, width_cons_of_not_isOpening closed,
        inductionStep]

/-! ## Pieces -/

/-- Whether pieces are read again when they are written. -/
def IsRead (styled : List Piece) : Prop :=
  pieces (written styled) = styled

theorem isRead_pieces (text : List Char) : IsRead (pieces text) := by
  rw [IsRead, written_pieces]

theorem IsRead.width_written (isRead : IsRead styled) :
    width (written styled) = (visibleOf styled).length := by
  rw [width, visible, isRead]

theorem isRead_code_cons_iff :
    IsRead (.code code :: styled) ↔ IsCode code ∧ IsRead styled := by
  constructor
  · intro isRead
    rw [IsRead, written_cons, Piece.text, pieces] at isRead
    split at isRead
    · rename_i other rest read
      obtain ⟨isCode, whole⟩ := readCode?_eq_some_iff.1 read
      rw [List.cons.injEq, Piece.code.injEq] at isRead
      obtain ⟨rfl, isRead⟩ := isRead
      rw [List.append_cancel_left_eq] at whole
      exact ⟨isCode, by rw [IsRead, whole, isRead]⟩
    · split at isRead
      · cases isRead
      · cases isRead
  · rintro ⟨isCode, isRead⟩
    rw [IsRead, written_cons, Piece.text, pieces_code_append isCode, isRead]

theorem isRead_visible_cons_iff {char : Char} :
    IsRead (.visible char :: styled) ↔
      readCode? (char :: written styled) = none ∧ IsRead styled := by
  constructor
  · intro isRead
    rw [IsRead, written_cons, Piece.text, List.singleton_append] at isRead
    cases read : readCode? (char :: written styled) with
    | none =>
        rw [pieces_cons_of_none read, List.cons.injEq] at isRead
        exact ⟨rfl, isRead.2⟩
    | some found =>
        obtain ⟨isCode, whole⟩ := readCode?_eq_some_iff.1 read
        rw [whole, pieces_code_append isCode] at isRead
        cases isRead
  · rintro ⟨unread, isRead⟩
    rw [IsRead, written_cons, Piece.text, List.singleton_append,
      pieces_cons_of_none unread, isRead]

/-- The end of pieces that are read again is, too. -/
theorem IsRead.right
    {before after : List Piece}
    (isRead : IsRead (before ++ after)) :
    IsRead after := by
  induction before with
  | nil => exact isRead
  | cons piece before inductionStep =>
      cases piece with
      | code code => exact inductionStep (isRead_code_cons_iff.1 isRead).2
      | visible char =>
          exact inductionStep (isRead_visible_cons_iff.1 isRead).2

/-- The beginning of pieces that are read again is, too: where a text ends,
no code begins. -/
theorem IsRead.left
    {before after : List Piece}
    (isRead : IsRead (before ++ after)) :
    IsRead before := by
  induction before with
  | nil => exact pieces_nil
  | cons piece before inductionStep =>
      cases piece with
      | code code =>
          obtain ⟨isCode, others⟩ := isRead_code_cons_iff.1 isRead
          exact isRead_code_cons_iff.2 ⟨isCode, inductionStep others⟩
      | visible char =>
          obtain ⟨unread, others⟩ := isRead_visible_cons_iff.1 isRead
          refine isRead_visible_cons_iff.2 ⟨?_, inductionStep others⟩
          by_contra read
          obtain ⟨⟨code, rest⟩, read⟩ := Option.ne_none_iff_exists'.1 read
          obtain ⟨isCode, whole⟩ := readCode?_eq_some_iff.1 read
          have longer :
              readCode? (char :: written (before ++ after)) =
                some (code, rest ++ written after) := by
            rw [readCode?_eq_some_iff, written_append, ← List.cons_append,
              whole, List.append_assoc]
            exact ⟨isCode, rfl⟩
          cases unread.symm.trans longer

theorem IsRead.takeVisible
    (isRead : IsRead styled)
    (count : Nat) :
    IsRead (takeVisible count styled) := by
  rw [← takeVisible_append_dropVisible count styled] at isRead
  exact isRead.left

theorem IsRead.dropVisible
    (isRead : IsRead styled)
    (count : Nat) :
    IsRead (dropVisible count styled) := by
  rw [← takeVisible_append_dropVisible count styled] at isRead
  exact isRead.right

theorem isCode_of_mem_codesOf
    (member : code ∈ codesOf (pieces text)) :
    IsCode code := by
  have isRead := isRead_pieces text
  generalize pieces text = styled at member isRead
  induction styled with
  | nil => cases member
  | cons piece styled inductionStep =>
      cases piece with
      | code other =>
          obtain ⟨isCode, others⟩ := isRead_code_cons_iff.1 isRead
          rcases List.mem_cons.1 member with rfl | member
          · exact isCode
          · exact inductionStep member others
      | visible char =>
          exact inductionStep member (isRead_visible_cons_iff.1 isRead).2

end CrateShelf.Terminal
