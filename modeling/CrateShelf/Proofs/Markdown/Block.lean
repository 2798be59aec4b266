import CrateShelf.Markdown.Block
import Mathlib.Data.List.Basic
import Mathlib.Data.List.TakeWhile

/-!
# Blocks of single lines

Main statement: where blocks are read from lines that hold no line ends, the
code in them and the markers of their lists hold none, either.
-/

namespace CrateShelf.Markdown

variable
    {line text marker rest : Line}
    {lines : List Line}

mutual

/-- Whether the lines of code in a block, and its list markers, hold no line
ends. -/
def Block.IsLineFree : Block → Prop
  | .fencedCode _ lines => ∀ line ∈ lines, '\n' ∉ line
  | .indentedCode lines => ∀ line ∈ lines, '\n' ∉ line
  | .quote blocks => AreLineFree blocks
  | .list items => ∀ item ∈ items, '\n' ∉ item.marker
  | _ => True

/-- Whether blocks hold no line ends in their code and list markers. -/
def AreLineFree : List Block → Prop
  | [] => True
  | block :: rest => block.IsLineFree ∧ AreLineFree rest

end

/-! ## Quotes -/

theorem dropIndent?_subset (dropped : dropIndent? line = some text) :
    text ⊆ line := by
  rw [dropIndent?] at dropped
  split at dropped
  · cases dropped
    exact (List.dropWhile_suffix _).subset
  · cases dropped

theorem quoted?_subset (quoted : quoted? line = some text) :
    text ⊆ line := by
  unfold quoted? at quoted
  split at quoted
  · rename_i blank rest dropped
    have inLine := dropIndent?_subset dropped
    split at quoted
    · cases quoted
      exact fun char member => inLine (by simp [member])
    · cases quoted
      exact fun char member => inLine (List.mem_cons_of_mem _ member)
  · cases quoted
    exact List.nil_subset _
  · cases quoted

/-- A quoted text is part of a line. -/
theorem exists_of_mem_takeQuoted (member : text ∈ (takeQuoted lines).1) :
    ∃ line ∈ lines, text ⊆ line := by
  fun_induction takeQuoted lines with
  | case1 => cases member
  | case2 line rest first quoted more inductionStep =>
      rcases List.mem_cons.1 member with rfl | member
      · exact ⟨line, List.mem_cons_self, quoted?_subset quoted⟩
      · obtain ⟨other, among, inOther⟩ := inductionStep member
        exact ⟨other, List.mem_cons_of_mem _ among, inOther⟩
  | case3 => cases member

theorem takeQuoted_suffix (lines : List Line) :
    (takeQuoted lines).2 <:+ lines := by
  fun_induction takeQuoted lines with
  | case1 => exact List.suffix_refl _
  | case2 line rest first quoted more inductionStep =>
      exact inductionStep.trans (List.suffix_cons _ _)
  | case3 => exact List.suffix_refl _

/-! ## Lists -/

theorem lineFree_of_listMarker?
    (found : listMarker? text = some (marker, rest)) :
    '\n' ∉ marker := by
  unfold listMarker? at found
  split at found
  · cases found
  · rename_i first _
    split at found
    · rename_i isSign
      cases found
      rw [List.mem_singleton]
      rintro rfl
      exact absurd isSign (by decide)
    · dsimp only at found
      split at found
      · cases found
      · rename_i mark _ _
        split at found
        · rename_i isNumber
          cases found
          rw [List.mem_append, List.mem_singleton, not_or]
          constructor
          · intro digit
            exact absurd (List.mem_takeWhile_imp digit) (by decide)
          · rintro rfl
            simp at isNumber
        · cases found

theorem lineFree_of_listItem?
    {item : ListItem}
    (found : listItem? line = some item) :
    '\n' ∉ item.marker := by
  obtain ⟨⟨marker, rest⟩, isMarker, formed⟩ := Option.bind_eq_some_iff.1 found
  dsimp only at formed
  split at formed
  · cases formed
    exact lineFree_of_listMarker? isMarker
  · cases formed

/-- Lines that go on with a list entry do not change its marker. -/
theorem ListItem.lineFree_extend
    {item : ListItem}
    (markerFree : '\n' ∉ item.marker)
    (rest : List Line) :
    '\n' ∉ (item.extend rest).marker :=
  markerFree

theorem dropGap_suffix (lines : List Line) : dropGap lines <:+ lines := by
  unfold dropGap
  split
  · split
    · exact List.suffix_cons _ _
    · exact List.suffix_refl _
  · exact List.suffix_refl _

theorem afterItem_suffix (lines : List Line) : afterItem lines <:+ lines :=
  (dropGap_suffix _).trans (List.dropWhile_suffix _)

theorem takeItems_suffix (lines : List Line) :
    (takeItems lines).2 <:+ lines := by
  fun_induction takeItems lines with
  | case1 => exact List.suffix_refl _
  | case2 => exact List.suffix_refl _
  | case3 line rest item isItem more inductionStep =>
      exact inductionStep.trans
        ((afterItem_suffix rest).trans (List.suffix_cons _ _))

theorem lineFree_of_mem_takeItems
    {item : ListItem}
    (member : item ∈ (takeItems lines).1) :
    '\n' ∉ item.marker := by
  fun_induction takeItems lines with
  | case1 => cases member
  | case2 => cases member
  | case3 line rest first isItem more inductionStep =>
      rcases List.mem_cons.1 member with rfl | member
      · exact first.lineFree_extend (lineFree_of_listItem? isItem) rest
      · exact inductionStep member

/-! ## Documents -/

theorem dropBlankEnd_subset (lines : List Line) :
    dropBlankEnd lines ⊆ lines := by
  intro line member
  rw [dropBlankEnd, List.mem_reverse] at member
  exact List.mem_reverse.1 ((List.dropWhile_suffix _).subset member)

/-- Blocks that are read from lines without line ends hold none. -/
theorem areLineFree_readBlocks
    (lineFree : ∀ line ∈ lines, '\n' ∉ line) :
    AreLineFree (readBlocks lines) := by
  fun_induction readBlocks lines with
  | case1 => trivial
  | case2 line rest blank inductionStep =>
      exact inductionStep (List.forall_mem_of_forall_mem_cons lineFree)
  | case3 line rest noBlank marker information isFence inductionStep =>
      have others := List.forall_mem_of_forall_mem_cons lineFree
      constructor
      · exact fun code member =>
          others code ((List.takeWhile_prefix _).subset member)
      · exact inductionStep fun other member =>
          others other ((List.dropWhile_suffix _).subset
            (List.mem_of_mem_drop member))
  | case4 line rest noBlank noFence isCode body inductionStep =>
      have others := List.forall_mem_of_forall_mem_cons lineFree
      constructor
      · intro code member
        obtain ⟨whole, inBody, rfl⟩ :=
          List.mem_map.1 (dropBlankEnd_subset _ member)
        have wholeFree : '\n' ∉ whole := by
          rcases List.mem_cons.1 inBody with same | among
          · exact same ▸ lineFree line List.mem_cons_self
          · exact others whole ((List.takeWhile_prefix _).subset among)
        exact fun inside => wholeFree (List.mem_of_mem_drop inside)
      · exact inductionStep fun other member =>
          others other ((List.dropWhile_suffix _).subset member)
  | case5 line rest noBlank noFence noCode level title isHeading
      inductionStep =>
      exact ⟨trivial,
        inductionStep (List.forall_mem_of_forall_mem_cons lineFree)⟩
  | case6 line rest noBlank noFence noCode noHeading isRule inductionStep =>
      exact ⟨trivial,
        inductionStep (List.forall_mem_of_forall_mem_cons lineFree)⟩
  | case7 line rest noBlank noFence noCode noHeading noRule isQuote
      insideStep inductionStep =>
      constructor
      · apply insideStep
        intro text member
        obtain ⟨other, among, inOther⟩ := exists_of_mem_takeQuoted member
        exact fun inside => lineFree other among (inOther inside)
      · exact inductionStep fun other member =>
          lineFree other ((takeQuoted_suffix _).subset member)
  | case8 line rest noBlank noFence noCode noHeading noRule noQuote item
      isItem more inductionStep =>
      have others := List.forall_mem_of_forall_mem_cons lineFree
      constructor
      · intro entry member
        rcases List.mem_cons.1 member with rfl | member
        · exact item.lineFree_extend (lineFree_of_listItem? isItem) rest
        · exact lineFree_of_mem_takeItems member
      · exact inductionStep fun other member =>
          others other (((takeItems_suffix _).trans
            (afterItem_suffix rest)).subset member)
  | case9 line rest noBlank noFence noCode noHeading noRule noQuote noItem
      inductionStep =>
      have others := List.forall_mem_of_forall_mem_cons lineFree
      exact ⟨trivial, inductionStep fun other member =>
        others other ((List.dropWhile_suffix _).subset member)⟩

end CrateShelf.Markdown
