import CrateShelf.Proofs.Terminal.Styled
import CrateShelf.Terminal.Wrap

/-!
# How lines are filled

A word is put on the line that is begun if there is room for it and a space;
else the line ends there.  A word that begins a line and is wider than the room
on it is cut, and what is left of it begins the next line.  As there is room
beside each lead, something is cut off each time, and this comes to an end.

Main statements: taking these steps one after the other leads to the lines of
the wrapped text and to no others; no line is wider than the columns given,
where these are raised so that a character fits beside each lead; and what
stands beside the leads is the words, in order.
-/

namespace CrateShelf.Terminal

variable
    {columns room : Nat}
    {lead later first current word text : List Char}
    {words lines : List (List Char)}

/-! ## Leads -/

/-- Whether no code reaches from a lead into the text beside it. -/
def IsLead (lead : List Char) : Prop :=
  ∀ last ∈ lead.getLast?, isOpening last = false

theorem isLead_replicate (count : Nat) : IsLead (List.replicate count ' ') := by
  intro last isLast
  rw [List.eq_of_mem_replicate (List.mem_of_getLast? isLast)]
  decide

theorem isLead_concat (lead : List Char) : IsLead (lead ++ [' ']) := by
  intro last isLast
  rw [List.getLast?_concat] at isLast
  cases isLast
  decide

theorem IsLead.width_append (isLead : IsLead lead) (text : List Char) :
    width (lead ++ text) = width lead + width text :=
  Terminal.width_append (areApart_of_border (.inl isLead))

/-- A space stands between two words. -/
theorem width_append_space (current word : List Char) :
    width (current ++ ' ' :: word) = width current + 1 + width word := by
  have apart : AreApart current (' ' :: word) := by
    apply areApart_of_border
    right
    rintro _ ⟨⟩
    decide
  have space : isOpening ' ' = false := by decide
  rw [Terminal.width_append apart, width_cons_of_not_isOpening space]
  omega

/-! ## Cutting words -/

theorem cut_append_written_dropVisible (count : Nat) (text : List Char) :
    cut count text ++ written (dropVisible count (pieces text)) = text := by
  rw [cut, ← written_append, takeVisible_append_dropVisible, written_pieces]

theorem cut_append_drop (count : Nat) (text : List Char) :
    cut count text ++ text.drop (cut count text).length = text :=
  List.prefix_iff_eq_append.1 ⟨_, cut_append_written_dropVisible count text⟩

theorem drop_length_cut (count : Nat) (text : List Char) :
    text.drop (cut count text).length =
      written (dropVisible count (pieces text)) :=
  List.append_cancel_left ((cut_append_drop count text).trans
    (cut_append_written_dropVisible count text).symm)

theorem width_cut_le (count : Nat) (text : List Char) :
    width (cut count text) ≤ count := by
  rw [cut, ((isRead_pieces text).takeVisible count).width_written,
    length_visibleOf_takeVisible]
  exact Nat.min_le_left _ _

theorem cut_written
    {styled : List Piece}
    (isRead : IsRead styled)
    (count : Nat) :
    cut count (written styled) = written (takeVisible count styled) := by
  rw [cut, isRead]

/-- Something is left of a word that is wider than where it is cut. -/
theorem written_dropVisible_ne_nil
    {styled : List Piece}
    (isRead : IsRead styled)
    (long : room < (visibleOf styled).length) :
    written (dropVisible room styled) ≠ [] := by
  intro nothing
  have left := (isRead.dropVisible room).width_written
  rw [nothing, width_nil] at left
  have whole := congrArg (fun styled => (visibleOf styled).length)
    (takeVisible_append_dropVisible room styled)
  simp only [visibleOf, List.filterMap_append, List.length_append] at whole
  have taken := length_visibleOf_takeVisible room styled
  simp only [visibleOf] at left taken long
  omega

/-! ## One step after the other -/

/-- The lines that come of a text that is begun beside a lead, and the words
that follow.  Nothing here bounds how often a word is divided. -/
inductive Fills (columns : Nat) (later : List Char) :
    List Char → List Char → List (List Char) → List (List Char) → Prop where
  | nothing {lead : List Char} : Fills columns later lead [] [] []
  | last
      {lead current : List Char}
      (begun : current ≠ []) :
      Fills columns later lead current [] [lead ++ current]
  | joined
      {lead current word : List Char}
      {words lines : List (List Char)}
      (begun : current ≠ [])
      (fits : width lead + width current + 1 + width word ≤ columns)
      (others : Fills columns later lead (current ++ ' ' :: word) words lines) :
      Fills columns later lead current (word :: words) lines
  | ended
      {lead current word : List Char}
      {words lines : List (List Char)}
      (begun : current ≠ [])
      (wide : columns < width lead + width current + 1 + width word)
      (others : Fills columns later later [] (word :: words) lines) :
      Fills columns later lead current (word :: words)
        ((lead ++ current) :: lines)
  | divided
      {lead word : List Char}
      {words lines : List (List Char)}
      (wide : columns < width lead + width word)
      (others : Fills columns later later []
        (word.drop (cut (columns - width lead) word).length :: words) lines) :
      Fills columns later lead [] (word :: words)
        ((lead ++ cut (columns - width lead) word) :: lines)
  | begun
      {lead word : List Char}
      {words lines : List (List Char)}
      (fits : width lead + width word ≤ columns)
      (others : Fills columns later lead word words lines) :
      Fills columns later lead [] (word :: words) lines

/-- Whether lines are what a text comes to: the columns are raised so that a
character fits beside each lead, and there is always a line. -/
def Wraps (columns : Int) (first later text : List Char)
    (lines : List (List Char)) : Prop :=
  ∃ filled,
    Fills (max columns.toNat (max (width first + 1) (width later + 1)))
      later first [] (Text.words text) filled ∧
    lines = if filled = [] then [first] else filled

/-- At most one step can be taken. -/
theorem Fills.unique
    {otherLines : List (List Char)}
    (fills : Fills columns later lead current words lines)
    (alsoFills : Fills columns later lead current words otherLines) :
    lines = otherLines := by
  induction fills generalizing otherLines with
  | nothing =>
      cases alsoFills with
      | nothing => rfl
      | last begun => exact absurd rfl begun
  | last begun =>
      cases alsoFills with
      | nothing => exact absurd rfl begun
      | last => rfl
  | joined begun fits _ inductionStep =>
      cases alsoFills with
      | joined _ _ others => exact inductionStep others
      | ended _ wide => exact absurd fits (Nat.not_le.2 wide)
      | divided => exact absurd rfl begun
      | begun => exact absurd rfl begun
  | ended begun wide _ inductionStep =>
      cases alsoFills with
      | joined _ fits => exact absurd fits (Nat.not_le.2 wide)
      | ended _ _ others => rw [inductionStep others]
      | divided => exact absurd rfl begun
      | begun => exact absurd rfl begun
  | divided wide _ inductionStep =>
      cases alsoFills with
      | joined begun => exact absurd rfl begun
      | ended begun => exact absurd rfl begun
      | divided _ others => rw [inductionStep others]
      | begun fits => exact absurd fits (Nat.not_le.2 wide)
  | begun fits _ inductionStep =>
      cases alsoFills with
      | joined begun => exact absurd rfl begun
      | ended begun => exact absurd rfl begun
      | divided wide => exact absurd fits (Nat.not_le.2 wide)
      | begun _ others => exact inductionStep others

/-- No line is wider than the columns, if the text that is begun fits and no
lead is wider. -/
theorem Fills.width_le
    (fills : Fills columns later lead current words lines)
    (besideLater : width later ≤ columns)
    (fits : width lead + width current ≤ columns) :
    ∀ line ∈ lines, width line ≤ columns := by
  induction fills with
  | nothing => exact List.forall_mem_nil _
  | last =>
      rw [List.forall_mem_singleton]
      exact (width_append_le _ _).trans fits
  | joined _ fitsToo _ inductionStep =>
      apply inductionStep
      rwa [width_append_space, ← Nat.add_assoc, ← Nat.add_assoc]
  | ended _ _ _ inductionStep =>
      rw [List.forall_mem_cons]
      refine ⟨(width_append_le _ _).trans fits, inductionStep ?_⟩
      rwa [width_nil]
  | @divided lead word _ _ _ _ inductionStep =>
      rw [List.forall_mem_cons]
      refine ⟨(width_append_le _ _).trans ?_, inductionStep ?_⟩
      · have least := width_cut_le (columns - width lead) word
        omega
      · rwa [width_nil]
  | begun fitsToo _ inductionStep => exact inductionStep fitsToo

/-! ## What stands beside the leads -/

/-- Texts with a lead in front of each. -/
def led (first later : List Char) : List (List Char) → List (List Char)
  | [] => []
  | text :: others => (first ++ text) :: others.map (later ++ ·)

theorem led_same (lead : List Char) (texts : List (List Char)) :
    led lead lead texts = texts.map (lead ++ ·) := by
  cases texts <;> rfl

/-- A text without its spaces. -/
def unspaced (text : List Char) : List Char :=
  text.filter (· ≠ ' ')

theorem unspaced_append (text other : List Char) :
    unspaced (text ++ other) = unspaced text ++ unspaced other :=
  List.filter_append ..

theorem unspaced_space (text : List Char) :
    unspaced (' ' :: text) = unspaced text :=
  List.filter_cons_of_neg (by decide)

/-- The words are all there, and nothing else. -/
theorem Fills.exists_led
    (fills : Fills columns later lead current words lines) :
    ∃ texts, lines = led lead later texts ∧
      unspaced texts.flatten = unspaced (current ++ words.flatten) := by
  induction fills with
  | nothing => exact ⟨[], rfl, rfl⟩
  | @last _ current => exact ⟨[current], rfl, rfl⟩
  | joined _ _ _ inductionStep =>
      obtain ⟨texts, shape, same⟩ := inductionStep
      refine ⟨texts, shape, same.trans ?_⟩
      rw [List.append_assoc, unspaced_append, List.cons_append,
        unspaced_space, ← unspaced_append, List.flatten_cons]
  | @ended _ current _ _ _ _ _ _ inductionStep =>
      obtain ⟨texts, shape, same⟩ := inductionStep
      refine ⟨current :: texts, ?_, ?_⟩
      · rw [shape, led_same, led]
      · rw [List.flatten_cons, unspaced_append, same, List.nil_append,
          unspaced_append]
  | @divided lead word words _ _ _ inductionStep =>
      obtain ⟨texts, shape, same⟩ := inductionStep
      refine ⟨cut (columns - width lead) word :: texts, ?_, ?_⟩
      · rw [shape, led_same, led]
      · rw [List.flatten_cons, unspaced_append, same, ← unspaced_append,
          List.nil_append, List.nil_append, List.flatten_cons,
          List.flatten_cons, ← List.append_assoc, cut_append_drop]
  | begun _ _ inductionStep => exact inductionStep

/-! ## The lines that are filled -/

theorem chopWord_of_fits
    {laterRoom : Nat}
    (fits : width word ≤ room) :
    chopWord room laterRoom word = ([], word) := by
  have short : ¬ room < (visibleOf (pieces word)).length :=
    Nat.not_lt.2 fits
  rw [chopWord, if_neg short]

/-- The lines of words of which the first begins a line. -/
def fillFrom (columns : Nat) (later lead word : List Char)
    (words : List (List Char)) : List (List Char) :=
  match chopWord (columns - width lead) (columns - width later) word with
  | ([], last) => fill columns later lead last words
  | (first :: more, last) =>
    (lead ++ first) :: more.map (later ++ ·) ++
      fill columns later later last words

theorem fill_of_empty :
    fill columns later lead [] (word :: words) =
      fillFrom columns later lead word words := by
  rw [fill, fillFrom, if_neg (by simp)]
  simp only [List.isEmpty_nil, if_true]
  rcases chopWord (columns - width lead) (columns - width later) word with
    ⟨_ | ⟨first, more⟩, last⟩
  · rfl
  · rfl

theorem fill_of_fits
    (begun : current ≠ [])
    (fits : width lead + width current + 1 + width word ≤ columns) :
    fill columns later lead current (word :: words) =
      fill columns later lead (current ++ ' ' :: word) words := by
  rw [fill, if_pos]
  simp [begun, fits]

theorem fill_of_wide
    (begun : current ≠ [])
    (wide : columns < width lead + width current + 1 + width word) :
    fill columns later lead current (word :: words) =
      (lead ++ current) :: fillFrom columns later later word words := by
  have some_ : current.isEmpty = false := by
    rwa [Bool.eq_false_iff, ne_eq, List.isEmpty_iff]
  rw [fill, fillFrom, if_neg (by simp; omega)]
  simp only [some_, Bool.false_eq_true, if_false]
  rcases chopWord (columns - width later) (columns - width later) word with
    ⟨_ | ⟨first, more⟩, last⟩
  · rfl
  · rfl

/-- Pieces that begin a later line are cut into stretches. -/
theorem fills_chop
    {styled : List Piece}
    (isRead : IsRead styled)
    (some_ : written styled ≠ [])
    (beside : width later < columns)
    (others : ∀ current, current ≠ [] →
      Fills columns later later current words
        (fill columns later later current words)) :
    Fills columns later later [] (written styled :: words)
      (((chop (columns - width later) styled).1.map written).map (later ++ ·) ++
        fill columns later later
          (written (chop (columns - width later) styled).2) words) := by
  obtain ⟨room, isRoom⟩ : ∃ room, columns - width later = room := ⟨_, rfl⟩
  rw [isRoom]
  fun_induction chop room styled with
  | case1 styled long done last chopped inductionStep =>
      have wide : columns < width later + width (written styled) := by
        rw [isRead.width_written]
        omega
      have rest := inductionStep (isRead.dropVisible room)
        (written_dropVisible_ne_nil isRead long.2)
      have dropped := drop_length_cut room (written styled)
      rw [isRead] at dropped
      rw [chopped, ← dropped, ← isRoom] at rest
      have step := Fills.divided wide rest
      rw [isRoom, cut_written isRead] at step
      exact step
  | case2 styled short =>
      refine .begun ?_ (others _ some_)
      rw [isRead.width_written]
      omega

/-- A word that begins a line is cut if there is need to. -/
theorem fills_fillFrom
    (some_ : word ≠ [])
    (beside : width lead < columns)
    (besideLater : width later < columns)
    (others : ∀ lead current, width lead < columns → current ≠ [] →
      Fills columns later lead current words
        (fill columns later lead current words)) :
    Fills columns later lead [] (word :: words)
      (fillFrom columns later lead word words) := by
  by_cases fits : width lead + width word ≤ columns
  · rw [fillFrom, chopWord_of_fits (by omega)]
    exact .begun fits (others lead word beside some_)
  · have wide := Nat.not_le.1 fits
    have long : columns - width lead < width word := by omega
    have isRead := isRead_pieces word
    have left := written_dropVisible_ne_nil isRead long
    have rest := fills_chop (isRead.dropVisible _) left besideLater
      fun current => others later current besideLater
    rw [← drop_length_cut] at rest
    rw [fillFrom, chopWord]
    dsimp only
    rw [if_pos (show _ < (visibleOf (pieces word)).length from long)]
    exact .divided wide rest

theorem fills_fill
    (begun : current ≠ [])
    (beside : width lead < columns)
    (besideLater : width later < columns)
    (some_ : ∀ word ∈ words, word ≠ []) :
    Fills columns later lead current words
      (fill columns later lead current words) := by
  induction words generalizing lead current with
  | nil => exact .last begun
  | cons word words inductionStep =>
      rw [List.forall_mem_cons] at some_
      have others : ∀ lead current, width lead < columns → current ≠ [] →
          Fills columns later lead current words
            (fill columns later lead current words) :=
        fun lead current beside begun => inductionStep begun beside some_.2
      by_cases fits : width lead + width current + 1 + width word ≤ columns
      · rw [fill_of_fits begun fits]
        exact .joined begun fits (others lead _ beside (by simp))
      · have wide := Nat.not_le.1 fits
        rw [fill_of_wide begun wide]
        exact .ended begun wide
          (fills_fillFrom some_.1 besideLater besideLater others)

/-! ## Wrapped texts -/

theorem wraps_wrap (columns : Int) (first later text : List Char) :
    Wraps columns first later text (wrap columns first later text) := by
  rw [Wraps, wrap]
  have some_ := Text.ne_nil_of_mem_words text
  obtain ⟨most, isMost⟩ : ∃ most, most =
    max columns.toNat (max (width first + 1) (width later + 1)) := ⟨_, rfl⟩
  rw [← isMost]
  cases shape : Text.words text with
  | nil =>
      refine ⟨[], .nothing, ?_⟩
      rw [if_pos rfl, fill, List.append_nil]
  | cons word words =>
      rw [shape, List.forall_mem_cons] at some_
      refine ⟨_, ?_, (if_neg (fill_ne_nil _ _ _ _ _)).symm⟩
      rw [fill_of_empty]
      apply fills_fillFrom some_.1 (by omega) (by omega)
      intro lead current beside begun
      exact fills_fill begun beside (by omega) some_.2

/-- No line is wider than the columns, if these are raised so that a
character fits beside each lead. -/
theorem width_le_of_mem_wrap
    {columns : Int}
    {line : List Char}
    (member : line ∈ wrap columns first later text) :
    width line ≤
      max columns.toNat (max (width first + 1) (width later + 1)) := by
  obtain ⟨filled, fills, same⟩ := wraps_wrap columns first later text
  rw [same] at member
  split at member
  · rw [List.mem_singleton.1 member]
    omega
  · apply fills.width_le _ _ line member
    · omega
    · rw [width_nil]
      omega

/-- Words hold no spaces. -/
theorem unspaced_flatten_words (text : List Char) :
    unspaced (Text.words text).flatten = (Text.words text).flatten := by
  rw [unspaced, List.filter_eq_self]
  intro char member
  obtain ⟨word, among, inside⟩ := List.mem_flatten.1 member
  rw [decide_eq_true_eq]
  rintro rfl
  exact absurd (Text.isBlank_eq_false_of_mem_words text word among ' ' inside)
    (by decide)

/-- Each line has its lead, and the words are all there beside them. -/
theorem exists_led_wrap (columns : Int) (first later text : List Char) :
    ∃ begun others,
      wrap columns first later text =
        (first ++ begun) :: others.map (later ++ ·) ∧
      unspaced (begun :: others).flatten = (Text.words text).flatten := by
  obtain ⟨filled, fills, same⟩ := wraps_wrap columns first later text
  obtain ⟨texts, shape, inOrder⟩ := fills.exists_led
  rw [List.nil_append, unspaced_flatten_words] at inOrder
  cases texts with
  | nil =>
      rw [shape, led, if_pos rfl] at same
      refine ⟨[], [], ?_, inOrder⟩
      rw [same, List.append_nil, List.map_nil]
  | cons begun others =>
      rw [shape, led, if_neg (List.cons_ne_nil _ _)] at same
      exact ⟨begun, others, same, inOrder⟩

/-- Words are blank-free; so only the leads could bring in a line end. -/
theorem lineFree_of_mem_wrap
    {columns : Int}
    {line : List Char}
    (firstFree : '\n' ∉ first)
    (laterFree : '\n' ∉ later)
    (member : line ∈ wrap columns first later text) :
    '\n' ∉ line := by
  obtain ⟨begun, others, shape, same⟩ :=
    exists_led_wrap columns first later text
  have beside : ∀ text ∈ begun :: others, '\n' ∉ text := by
    intro beside among lineEnd
    have kept : '\n' ∈ unspaced (begun :: others).flatten :=
      List.mem_filter.2 ⟨List.mem_flatten.2 ⟨beside, among, lineEnd⟩, by decide⟩
    rw [same] at kept
    obtain ⟨word, isWord, inside⟩ := List.mem_flatten.1 kept
    exact absurd
      (Text.isBlank_eq_false_of_mem_words text word isWord '\n' inside)
      (by decide)
  rw [List.forall_mem_cons] at beside
  rw [shape, List.mem_cons, List.mem_map] at member
  rcases member with rfl | ⟨other, among, rfl⟩
  · rw [List.mem_append]
    exact not_or_intro firstFree beside.1
  · rw [List.mem_append]
    exact not_or_intro laterFree (beside.2 other among)

/-- Columns too few for a character beside a lead make no difference. -/
theorem wrap_of_le
    (few : columns ≤ max (width first + 1) (width later + 1)) :
    wrap columns first later text = wrap (0 : Nat) first later text := by
  rw [wrap, wrap, Int.toNat_natCast, Int.toNat_natCast, Nat.max_eq_right few,
    Nat.zero_max]

/--
Filling lines comes to an end, with the lines of the wrapped text and with no
others; no line is wider than the columns, raised so that a character fits
beside each lead; each line begins with its lead; and beside the leads there
are the words, one after the other, with spaces alone put in.
-/
theorem wraps_iff_and_fits_and_keeps_words
    (columns : Int)
    (first later text : List Char) :
    (∀ lines, Wraps columns first later text lines ↔
      lines = wrap columns first later text) ∧
      (∀ line ∈ wrap columns first later text,
        (width line : Int) ≤
          max columns (max (width first + 1) (width later + 1))) ∧
      ∃ begun others,
        wrap columns first later text =
          (first ++ begun) :: others.map (later ++ ·) ∧
        unspaced (begun :: others).flatten = (Text.words text).flatten := by
  refine ⟨?_, ?_, exists_led_wrap columns first later text⟩
  · intro lines
    constructor
    · rintro ⟨filled, fills, rfl⟩
      obtain ⟨alsoFilled, alsoFills, same⟩ :=
        wraps_wrap columns first later text
      rw [same, fills.unique alsoFills]
    · rintro rfl
      exact wraps_wrap columns first later text
  · intro line member
    have fits := width_le_of_mem_wrap member
    omega

end CrateShelf.Terminal
