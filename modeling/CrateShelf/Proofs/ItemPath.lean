import CrateShelf.ItemPath
import Mathlib.Data.List.Infix

/-!
# Reading written paths

A path is sound if no segment is empty or holds a colon.  A path is readable
if reading its written form gives the path back; a single colon in a segment
does no harm unless it is next to one that separates segments.

Main statements: a path is readable exactly when no segment is empty or holds
a doubled colon and none but the last ends with a colon; sound paths are
readable.
-/

namespace CrateShelf

namespace Text

variable
    {mark : Char}
    {piece text : List Char}
    {pieces : List (List Char)}

/-! ## Cutting at doubled marks -/

/-- A text without the doubled mark is one piece. -/
theorem splitAtPair_of_not_infix
    (absent : ¬ [mark, mark] <:+: piece) :
    splitAtPair mark piece = [piece] := by
  induction piece with
  | nil => rfl
  | cons char piece inductionStep =>
      rw [List.infix_cons_iff, not_or] at absent
      have others := inductionStep absent.2
      cases piece with
      | nil => rfl
      | cons next piece =>
          have different : ¬ (char = mark ∧ next = mark) := by
            rintro ⟨rfl, rfl⟩
            exact absent.1 (by simp)
          simp only [splitAtPair, different, if_false, others, consFirst]

/-- The first doubled mark ends a piece. -/
theorem splitAtPair_append_pair
    (absent : ¬ [mark, mark] <:+: piece ++ [mark])
    (rest : List Char) :
    splitAtPair mark (piece ++ mark :: mark :: rest) =
      piece :: splitAtPair mark rest := by
  induction piece with
  | nil => simp [splitAtPair]
  | cons char piece inductionStep =>
      rw [List.cons_append, List.infix_cons_iff, not_or] at absent
      have others := inductionStep absent.2
      cases piece with
      | nil =>
          have different : ¬ (char = mark ∧ mark = mark) := by
            rintro ⟨rfl, _⟩
            exact absent.1 (by simp)
          rw [List.nil_append] at others
          rw [List.cons_append, List.nil_append, splitAtPair,
            if_neg different, others, consFirst]
      | cons next piece =>
          have different : ¬ (char = mark ∧ next = mark) := by
            rintro ⟨rfl, rfl⟩
            exact absent.1 (by simp)
          rw [List.cons_append] at others
          simp only [List.cons_append, splitAtPair, different, if_false,
            others, consFirst]

/-- A mark makes a doubled one only with a mark right before it. -/
theorem infix_append_mark_iff :
    [mark, mark] <:+: piece ++ [mark] ↔
      [mark, mark] <:+: piece ∨ piece.getLast? = some mark := by
  rw [List.infix_concat_iff, or_comm, List.suffix_concat_iff]
  apply or_congr_right
  rw [← List.singleton_suffix_iff_getLast?_eq_some]
  constructor
  · rintro (none | ⟨front, spelled, ends⟩)
    · cases none
    · have single : [mark] = front := List.append_cancel_right spelled
      rw [single]
      exact ends
  · intro ends
    exact Or.inr ⟨[mark], rfl, ends⟩

/-- Pieces are found again between doubled marks if none holds one and none
but the last ends with a mark. -/
theorem splitAtPair_intercalate
    (some : pieces ≠ [])
    (absent : ∀ piece ∈ pieces, ¬ [mark, mark] <:+: piece)
    (apart : ∀ piece ∈ pieces.dropLast, piece.getLast? ≠ Option.some mark) :
    splitAtPair mark ([mark, mark].intercalate pieces) = pieces := by
  induction pieces with
  | nil => exact absurd rfl some
  | cons piece pieces inductionStep =>
      rw [List.forall_mem_cons] at absent
      cases pieces with
      | nil =>
          rw [List.intercalate_singleton]
          exact splitAtPair_of_not_infix absent.1
      | cons next pieces =>
          rw [List.dropLast_cons_of_ne_nil (by simp),
            List.forall_mem_cons] at apart
          have others := inductionStep (by simp) absent.2 apart.2
          have alone : ¬ [mark, mark] <:+: piece ++ [mark] := by
            rw [infix_append_mark_iff, not_or]
            exact ⟨absent.1, apart.1⟩
          rw [List.intercalate_cons_cons, List.append_assoc]
          exact (splitAtPair_append_pair alone _).trans
            (congrArg (piece :: ·) others)

/-- The first piece is what the text begins with. -/
theorem prefix_of_splitAtPair
    (cut : splitAtPair mark text = piece :: pieces) :
    piece <+: text := by
  induction text using splitAtPair.induct mark generalizing piece pieces with
  | case1 =>
      cases cut
      exact List.prefix_rfl
  | case2 char =>
      cases cut
      exact List.prefix_rfl
  | case3 char next rest both _ =>
      rw [splitAtPair, if_pos both] at cut
      cases cut
      exact List.nil_prefix
  | case4 char next rest single inductionStep =>
      rw [splitAtPair, if_neg single] at cut
      cases others : splitAtPair mark (next :: rest) with
      | nil =>
          rw [others] at cut
          cases cut
          simp
      | cons first more =>
          rw [others] at cut
          cases cut
          rw [List.cons_prefix_cons]
          exact ⟨rfl, inductionStep others⟩

/-- No piece holds a doubled mark. -/
theorem not_infix_of_mem_splitAtPair
    (member : piece ∈ splitAtPair mark text) :
    ¬ [mark, mark] <:+: piece := by
  induction text using splitAtPair.induct mark generalizing piece with
  | case1 =>
      rw [splitAtPair, List.mem_singleton] at member
      simp [member]
  | case2 char =>
      rw [splitAtPair, List.mem_singleton] at member
      simp [member, List.infix_cons_iff]
  | case3 char next rest both inductionStep =>
      rw [splitAtPair, if_pos both, List.mem_cons] at member
      rcases member with rfl | later
      · simp
      · exact inductionStep later
  | case4 char next rest single inductionStep =>
      rw [splitAtPair, if_neg single] at member
      cases others : splitAtPair mark (next :: rest) with
      | nil => exact absurd others (splitAtPair_ne_nil mark _)
      | cons first more =>
          rw [others] at member inductionStep
          rcases List.mem_cons.1 member with rfl | later
          · rw [List.infix_cons_iff, not_or]
            refine ⟨?_, inductionStep List.mem_cons_self⟩
            rintro ⟨after, spelled⟩
            rcases prefix_of_splitAtPair others with ⟨end_, begins⟩
            cases first with
            | nil => simp at spelled
            | cons second first =>
                simp only [List.cons_append, List.nil_append,
                  List.cons.injEq] at spelled begins
                exact single ⟨spelled.1.symm, begins.1.symm.trans
                  spelled.2.1.symm⟩
          · exact inductionStep (List.mem_cons_of_mem _ later)

/-- Only a mark is behind an empty piece that is not the last. -/
theorem eq_mark_of_splitAtPair
    {char : Char}
    (cut : splitAtPair mark (char :: text) = [] :: pieces) :
    char = mark := by
  cases text with
  | nil => cases cut
  | cons next rest =>
      rw [splitAtPair] at cut
      split at cut
      · rename_i both
        exact both.1
      · cases others : splitAtPair mark (next :: rest) with
        | nil =>
            rw [others] at cut
            cases cut
        | cons first more =>
            rw [others] at cut
            cases cut

/-- No piece but the last ends with a mark. -/
theorem getLast?_ne_of_mem_dropLast_splitAtPair
    (member : piece ∈ (splitAtPair mark text).dropLast) :
    piece.getLast? ≠ some mark := by
  induction text using splitAtPair.induct mark generalizing piece with
  | case1 => cases member
  | case2 char => cases member
  | case3 char next rest both inductionStep =>
      rw [splitAtPair, if_pos both,
        List.dropLast_cons_of_ne_nil (splitAtPair_ne_nil mark rest),
        List.mem_cons] at member
      rcases member with rfl | later
      · simp
      · exact inductionStep later
  | case4 char next rest single inductionStep =>
      rw [splitAtPair, if_neg single] at member
      cases others : splitAtPair mark (next :: rest) with
      | nil => exact absurd others (splitAtPair_ne_nil mark _)
      | cons first more =>
          rw [others] at member inductionStep
          cases more with
          | nil => cases member
          | cons second more =>
              rw [List.dropLast_cons_of_ne_nil (by simp)] at inductionStep
              rw [consFirst, List.dropLast_cons_of_ne_nil (by simp)] at member
              rcases List.mem_cons.1 member with rfl | later
              · cases first with
                | nil =>
                    have same := eq_mark_of_splitAtPair others
                    intro last
                    exact single ⟨Option.some_inj.1 last, same⟩
                | cons third first =>
                    rw [List.getLast?_cons_cons]
                    exact inductionStep List.mem_cons_self
              · exact inductionStep (List.mem_cons_of_mem _ later)

end Text

namespace ItemPath

/-! ## Sound and readable paths -/

/-- Whether no segment is empty or holds a colon. -/
def IsSound (path : ItemPath) : Prop :=
  ∀ segment ∈ path.segments, segment ≠ "" ∧ ':' ∉ segment.toList

instance (path : ItemPath) : Decidable path.IsSound :=
  inferInstanceAs (Decidable
    (∀ segment ∈ path.segments, segment ≠ "" ∧ ':' ∉ segment.toList))

/-- Whether reading the written form of a path gives the path back. -/
def IsReadable (path : ItemPath) : Prop := parse path.toText = path

instance (path : ItemPath) : Decidable path.IsReadable :=
  inferInstanceAs (Decidable (parse path.toText = path))

/-- The characters of a written path. -/
theorem toList_toText (path : ItemPath) :
    path.toText.toList =
      [':', ':'].intercalate (path.segments.map String.toList) := by
  exact String.toList_intercalate

/-- What is read from a written path has the texts between doubled colons as
segments. -/
theorem segments_parse_toText (path : ItemPath) :
    (parse path.toText).segments.map String.toList =
      (Text.splitAtPair ':'
        ([':', ':'].intercalate (path.segments.map String.toList))).filter
          (! ·.isEmpty) := by
  rw [parse, toList_toText, List.map_map]
  simp

/-- The members before the last of what is kept of a list come before the
last of the whole list. -/
theorem mem_dropLast_of_mem_filter
    {α : Type}
    {test : α → Bool}
    {value : α}
    {values : List α}
    (member : value ∈ (values.filter test).dropLast) :
    value ∈ values.dropLast := by
  cases values using List.reverseRecOn with
  | nil => cases member
  | append_singleton values last _ =>
      rw [List.dropLast_concat]
      rw [List.filter_append] at member
      by_cases kept : test last = true
      · rw [List.filter_cons_of_pos kept, List.filter_nil,
          List.dropLast_concat] at member
        exact List.mem_of_mem_filter member
      · rw [List.filter_cons_of_neg kept, List.filter_nil,
          List.append_nil] at member
        exact List.mem_of_mem_filter (List.dropLast_subset _ member)

theorem isReadable_iff_pieces (path : ItemPath) :
    path.IsReadable ↔
      (Text.splitAtPair ':'
        ([':', ':'].intercalate (path.segments.map String.toList))).filter
          (! ·.isEmpty) = path.segments.map String.toList := by
  rw [← segments_parse_toText]
  constructor
  · intro readable
    rw [show parse path.toText = path from readable]
  · intro same
    have segments :=
      List.map_injective_iff.2 (fun _ _ => String.toList_injective) same
    exact congrArg ItemPath.mk segments

/-- A written path is cut at its joints only if no segment holds a doubled
colon and none but the last ends with a colon. -/
theorem splitAtPair_segments
    {path : ItemPath}
    (some : path.segments ≠ [])
    (whole : ∀ segment ∈ path.segments, ¬ [':', ':'] <:+: segment.toList)
    (apart : ∀ segment ∈ path.segments.dropLast,
      segment.toList.getLast? ≠ Option.some ':') :
    Text.splitAtPair ':'
        ([':', ':'].intercalate (path.segments.map String.toList)) =
      path.segments.map String.toList := by
  apply Text.splitAtPair_intercalate
  · simpa using some
  · intro piece member
    rcases List.mem_map.1 member with ⟨segment, inPath, rfl⟩
    exact whole segment inPath
  · intro piece member
    rw [← List.map_dropLast] at member
    rcases List.mem_map.1 member with ⟨segment, before, rfl⟩
    exact apart segment before

/-- A path is readable exactly when no segment is empty or holds a doubled
colon and none but the last ends with a colon. -/
theorem isReadable_iff (path : ItemPath) :
    path.IsReadable ↔
      (∀ segment ∈ path.segments,
        segment ≠ "" ∧ ¬ [':', ':'] <:+: segment.toList) ∧
      ∀ segment ∈ path.segments.dropLast,
        segment.toList.getLast? ≠ some ':' := by
  rw [isReadable_iff_pieces]
  constructor
  · intro same
    constructor
    · intro segment member
      have piece := List.mem_map_of_mem (f := String.toList) member
      rw [← same, List.mem_filter] at piece
      refine ⟨?_, Text.not_infix_of_mem_splitAtPair piece.1⟩
      rintro rfl
      simp at piece
    · intro segment member
      have piece :
          segment.toList ∈ (path.segments.map String.toList).dropLast := by
        rw [← List.map_dropLast]
        exact List.mem_map_of_mem member
      rw [← same] at piece
      exact Text.getLast?_ne_of_mem_dropLast_splitAtPair
        (mem_dropLast_of_mem_filter piece)
  · rintro ⟨whole, apart⟩
    by_cases none : path.segments = []
    · rw [none]
      rfl
    · rw [splitAtPair_segments none
        (fun segment member => (whole segment member).2) apart,
        List.filter_eq_self]
      intro piece member
      rcases List.mem_map.1 member with ⟨segment, inPath, rfl⟩
      simpa using (whole segment inPath).1

theorem IsSound.isReadable
    {path : ItemPath}
    (sound : path.IsSound) :
    path.IsReadable := by
  rw [isReadable_iff]
  constructor
  · intro segment member
    refine ⟨(sound segment member).1, ?_⟩
    intro holds
    exact (sound segment member).2 (holds.subset List.mem_cons_self)
  · intro segment member last
    exact (sound segment (List.dropLast_subset _ member)).2
      (List.mem_of_getLast? last)

/-- A sound path is read from its written form. -/
theorem parse_toText
    (path : ItemPath)
    (sound : path.IsSound) :
    parse path.toText = path :=
  sound.isReadable

end ItemPath

end CrateShelf

namespace CrateShelf.ItemPath

/-!
## Paths below others

A path lies below another one if it continues it by at least one segment.
-/

theorem startsWith_iff_segments {path front : ItemPath} :
    path.startsWith front = true ↔ front.segments <+: path.segments :=
  List.isPrefixOf_iff_prefix

theorem startsWith_refl (path : ItemPath) : path.startsWith path = true :=
  startsWith_iff_segments.2 (List.prefix_refl _)

theorem startsWith_trans
    {path middle front : ItemPath}
    (lower : path.startsWith middle = true)
    (upper : middle.startsWith front = true) :
    path.startsWith front = true :=
  startsWith_iff_segments.2
    ((startsWith_iff_segments.1 upper).trans (startsWith_iff_segments.1 lower))

theorem startsWith_antisymm
    {path other : ItemPath}
    (one : path.startsWith other = true)
    (another : other.startsWith path = true) :
    path = other := by
  have same := (startsWith_iff_segments.1 another).eq_of_length_le
    (startsWith_iff_segments.1 one).length_le
  cases path
  cases other
  exact congrArg ItemPath.mk same

theorem startsWith_push (path : ItemPath) (name : String) :
    (path.push name).startsWith path = true :=
  startsWith_iff_segments.2 (List.prefix_append _ _)

/-- A path continues another one by at least one segment. -/
def IsBelow (path top : ItemPath) : Prop :=
  path.startsWith top = true ∧ path ≠ top

theorem isBelow_push (path : ItemPath) (name : String) :
    (path.push name).IsBelow path := by
  refine ⟨startsWith_push path name, fun same => ?_⟩
  have lengths := congrArg (·.segments.length) same
  simp at lengths

theorem IsBelow.of_startsWith
    {path middle top : ItemPath}
    (lower : path.startsWith middle = true)
    (upper : middle.IsBelow top) :
    path.IsBelow top := by
  refine ⟨startsWith_trans lower upper.1, ?_⟩
  rintro rfl
  exact upper.2 (startsWith_antisymm upper.1 lower)

/-- Of what a path starts with, only the path itself and what the path above
starts with are not longer. -/
theorem startsWith_push_iff {path front : ItemPath} {name : String} :
    (path.push name).startsWith front = true ↔
      front = path.push name ∨ path.startsWith front = true := by
  rw [startsWith_iff_segments, startsWith_iff_segments, segments_push,
    List.prefix_concat_iff]
  cases front
  simp [push]

/-- Every path below one and above or at another has a property. -/
structure Reaches (holds : ItemPath → Prop) (top path : ItemPath) : Prop where
  isBelow : path.IsBelow top
  each : ∀ middle, middle.IsBelow top → path.startsWith middle = true →
    holds middle

theorem reaches_push
    {holds : ItemPath → Prop}
    {top : ItemPath}
    {name : String}
    (shown : holds (top.push name)) :
    Reaches holds top (top.push name) where
  isBelow := isBelow_push top name
  each := by
    intro middle below starts
    rcases startsWith_push_iff.1 starts with rfl | above
    · exact shown
    · exact absurd (startsWith_antisymm below.1 above) below.2

theorem Reaches.up
    {holds : ItemPath → Prop}
    {top path : ItemPath}
    {name : String}
    (shown : holds (top.push name))
    (further : Reaches holds (top.push name) path) :
    Reaches holds top path where
  isBelow := .of_startsWith further.isBelow.1 (isBelow_push top name)
  each := by
    intro middle below starts
    have onward := startsWith_iff_segments.1 further.isBelow.1
    rcases List.prefix_or_prefix_of_prefix onward
        (startsWith_iff_segments.1 starts) with lower | upper
    · by_cases same : middle = top.push name
      · exact same ▸ shown
      · exact further.each middle ⟨startsWith_iff_segments.2 lower, same⟩
          starts
    · rcases startsWith_push_iff.1 (startsWith_iff_segments.2 upper) with
        rfl | above
      · exact shown
      · exact absurd (startsWith_antisymm below.1 above) below.2

theorem Reaches.imp
    {holds others : ItemPath → Prop}
    {top path : ItemPath}
    (implies : ∀ middle, holds middle → others middle)
    (reaches : Reaches holds top path) :
    Reaches others top path where
  isBelow := reaches.isBelow
  each middle below starts := implies middle (reaches.each middle below starts)

end CrateShelf.ItemPath
