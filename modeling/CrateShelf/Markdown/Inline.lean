import CrateShelf.Terminal.Styled
import CrateShelf.Text.Blank
import CrateShelf.Text.CharClass
import CrateShelf.Text.Split

/-!
# Spans inside a line

Code between ticks, strong and emphasised text, links and references.  A
span is read at the earliest place where one begins; at one place the sorts
are tried in the order in which they are listed in `readSpan?`.  Spans do not
nest.
-/

namespace CrateShelf.Markdown

/-- What a span looks like. -/
inductive SpanKind where
  | code
  | strong
  | emphasis
  | link
deriving DecidableEq, Repr

/-- A stretch of text set apart from the text around it. -/
structure Span where
  kind : SpanKind
  content : List Char
deriving DecidableEq, Repr

/-- The text before the first occurrence of a mark, and the text after it;
the text before may not hold a line end. -/
def untilMark (mark : List Char) : List Char →
    Option (List Char × List Char)
  | [] => if mark.isEmpty then some ([], []) else none
  | char :: rest =>
    if mark.isPrefixOf (char :: rest) then
      some ([], (char :: rest).drop mark.length)
    else if char = '\n' then none
    else (untilMark mark rest).map fun (before, after) =>
      (char :: before, after)

/-- As `untilMark`, for a text before the mark that is not empty. -/
def untilMarkAfterOne (mark : List Char) : List Char →
    Option (List Char × List Char)
  | [] => none
  | char :: rest =>
    if char = '\n' then none
    else (untilMark mark rest).map fun (before, after) =>
      (char :: before, after)

/-- Code between runs of ticks, the longest possible run first. -/
def codeSpan? (text : List Char) : Nat → Option (Span × List Char)
  | 0 => none
  | ticks + 1 =>
    match untilMarkAfterOne (List.replicate (ticks + 1) '\x60')
        (text.drop (ticks + 1)) with
    | some (content, rest) => some (⟨.code, Text.trim content⟩, rest)
    | none => codeSpan? text ticks

/-- Strong text between two doubled marks. -/
def strongSpan? (mark : Char) : List Char → Option (Span × List Char)
  | first :: second :: rest =>
    if first = mark ∧ second = mark then
      (untilMarkAfterOne [mark, mark] rest).map fun (content, rest) =>
        (⟨.strong, content⟩, rest)
    else none
  | _ => none

/-- Emphasised text between two marks; it begins with no blank. -/
def emphasisSpan? (mark : Char) : List Char → Option (Span × List Char)
  | first :: next :: rest =>
    if first = mark ∧ next ≠ mark ∧ !Text.isBlank next then
      match Text.cutFirst mark (next :: rest) with
      | (content, some rest) => some (⟨.emphasis, content⟩, rest)
      | (_, none) => none
    else none
  | _ => none

/-- Whether there is no word character. -/
def isOutsideWord (char? : Option Char) : Bool :=
  match char? with
  | some char => !Text.isWordChar char
  | none => true

/-- Emphasised text between underscores, which may not be part of a word. -/
def lowEmphasisSpan? (before : Option Char) (text : List Char) :
    Option (Span × List Char) :=
  if isOutsideWord before then
    match emphasisSpan? '_' text with
    | some (span, rest) =>
      if isOutsideWord rest.head? then some (span, rest) else none
    | none => none
  else none

/-- The text between brackets, and what follows the closing one. -/
def bracketed? : List Char → Option (List Char × List Char)
  | '[' :: rest =>
    match Text.cutFirst ']' rest with
    | ([], _) => none
    | (content, some rest) => some (content, rest)
    | (_, none) => none
  | _ => none

/-- A bracketed text with a target in parentheses. -/
def linkSpan? (text : List Char) : Option (Span × List Char) :=
  match bracketed? text with
  | some (content, '(' :: first :: rest) =>
    if first = ')' || Text.isBlank first then none
    else
      match Text.cutFirst ')' rest with
      | (_, some rest) => some (⟨.link, content⟩, rest)
      | (_, none) => none
  | _ => none

/-- A text without a tick at its end, unless it is nothing else. -/
def dropLastTick (text : List Char) : List Char :=
  if 2 ≤ text.length ∧ text.getLast? = some '\x60' then text.dropLast
  else text

/-- A text without one tick at either end; something always remains. -/
def dropTicks : List Char → List Char
  | '\x60' :: next :: rest => dropLastTick (next :: rest)
  | text => dropLastTick text

/-- A bracketed text without a target. -/
def referenceSpan? (text : List Char) : Option (Span × List Char) :=
  match bracketed? text with
  | some (_, '(' :: _) => none
  | some (content, rest) => some (⟨.link, dropTicks content⟩, rest)
  | none => none

/-- The span at the start of a text, given the character before it, and what
follows the span. -/
def readSpan? (before : Option Char) (text : List Char) :
    Option (Span × List Char) :=
  codeSpan? text (text.takeWhile (· = '\x60')).length
    <|> strongSpan? '*' text
    <|> strongSpan? '_' text
    <|> emphasisSpan? '*' text
    <|> lowEmphasisSpan? before text
    <|> linkSpan? text
    <|> referenceSpan? text

theorem length_le_of_untilMark (mark text before after : List Char)
    (found : untilMark mark text = some (before, after)) :
    after.length ≤ text.length := by
  induction text generalizing before with
  | nil =>
    simp only [untilMark] at found
    split at found <;> simp_all
  | cons char rest inductionStep =>
    simp only [untilMark] at found
    split at found
    · simp only [Option.some.injEq, Prod.mk.injEq] at found
      rw [← found.2]
      simp
    · split at found
      · cases found
      · obtain ⟨⟨inner, left⟩, later, same⟩ :=
          Option.map_eq_some_iff.1 found
        simp only [Prod.mk.injEq] at same
        obtain ⟨_, rfl⟩ := same
        exact Nat.le_succ_of_le (inductionStep inner later)

theorem length_lt_of_untilMarkAfterOne (mark text before after : List Char)
    (found : untilMarkAfterOne mark text = some (before, after)) :
    after.length < text.length := by
  cases text with
  | nil => cases found
  | cons char rest =>
    simp only [untilMarkAfterOne] at found
    split at found
    · cases found
    · obtain ⟨⟨inner, left⟩, later, same⟩ := Option.map_eq_some_iff.1 found
      simp only [Prod.mk.injEq] at same
      obtain ⟨_, rfl⟩ := same
      exact Nat.lt_succ_of_le (length_le_of_untilMark _ _ _ _ later)

theorem length_lt_of_codeSpan? (text : List Char) (ticks : Nat)
    (span : Span) (after : List Char)
    (found : codeSpan? text ticks = some (span, after)) :
    after.length < text.length := by
  induction ticks with
  | zero => cases found
  | succ ticks inductionStep =>
    simp only [codeSpan?] at found
    split at found
    · rename_i content rest closed
      simp only [Option.some.injEq, Prod.mk.injEq] at found
      obtain ⟨_, rfl⟩ := found
      have shorter := length_lt_of_untilMarkAfterOne _ _ _ _ closed
      simp only [List.length_drop] at shorter
      omega
    · exact inductionStep found

theorem length_lt_of_strongSpan? (mark : Char) (text : List Char)
    (span : Span) (after : List Char)
    (found : strongSpan? mark text = some (span, after)) :
    after.length < text.length := by
  unfold strongSpan? at found
  split at found
  · split at found
    · obtain ⟨⟨inner, left⟩, later, same⟩ := Option.map_eq_some_iff.1 found
      simp only [Prod.mk.injEq] at same
      obtain ⟨_, rfl⟩ := same
      have shorter := length_lt_of_untilMarkAfterOne _ _ _ _ later
      simp only [List.length_cons]
      omega
    · cases found
  · cases found

theorem length_lt_of_emphasisSpan? (mark : Char) (text : List Char)
    (span : Span) (after : List Char)
    (found : emphasisSpan? mark text = some (span, after)) :
    after.length < text.length := by
  unfold emphasisSpan? at found
  split at found
  · split at found
    · split at found
      · rename_i content left closed
        simp only [Option.some.injEq, Prod.mk.injEq] at found
        obtain ⟨_, rfl⟩ := found
        exact Nat.lt_succ_of_le (Text.length_le_of_cutFirst _ _ _ _ closed)
      · cases found
    · cases found
  · cases found

theorem length_lt_of_lowEmphasisSpan? (before : Option Char)
    (text : List Char) (span : Span) (after : List Char)
    (found : lowEmphasisSpan? before text = some (span, after)) :
    after.length < text.length := by
  unfold lowEmphasisSpan? at found
  split at found
  · split at found
    · rename_i inner left closed
      split at found
      · simp only [Option.some.injEq, Prod.mk.injEq] at found
        obtain ⟨_, rfl⟩ := found
        exact length_lt_of_emphasisSpan? _ _ _ _ closed
      · cases found
    · cases found
  · cases found

theorem length_lt_of_bracketed? (text content after : List Char)
    (found : bracketed? text = some (content, after)) :
    after.length < text.length := by
  unfold bracketed? at found
  split at found
  · split at found
    · cases found
    · rename_i inside content left _ closed
      simp only [Option.some.injEq, Prod.mk.injEq] at found
      obtain ⟨_, rfl⟩ := found
      exact Nat.lt_succ_of_le (Text.length_le_of_cutFirst _ _ _ _ closed)
    · cases found
  · cases found

theorem length_lt_of_linkSpan? (text : List Char) (span : Span)
    (after : List Char) (found : linkSpan? text = some (span, after)) :
    after.length < text.length := by
  unfold linkSpan? at found
  split at found
  · rename_i content first rest opened
    split at found
    · cases found
    · split at found
      · rename_i target left closed
        simp only [Option.some.injEq, Prod.mk.injEq] at found
        obtain ⟨_, rfl⟩ := found
        have inside := length_lt_of_bracketed? _ _ _ opened
        have shorter := Text.length_le_of_cutFirst _ _ _ _ closed
        simp only [List.length_cons] at inside
        omega
      · cases found
  · cases found

theorem length_lt_of_referenceSpan? (text : List Char) (span : Span)
    (after : List Char) (found : referenceSpan? text = some (span, after)) :
    after.length < text.length := by
  unfold referenceSpan? at found
  split at found
  · cases found
  · rename_i content left _ opened
    simp only [Option.some.injEq, Prod.mk.injEq] at found
    obtain ⟨_, rfl⟩ := found
    exact length_lt_of_bracketed? _ _ _ opened
  · cases found

/-- A span takes up at least one character. -/
theorem length_lt_of_readSpan? (before : Option Char) (text : List Char)
    (span : Span) (after : List Char)
    (found : readSpan? before text = some (span, after)) :
    after.length < text.length := by
  simp only [readSpan?, Option.orElse_eq_orElse, Option.orElse_eq_or,
    Option.or_eq_some_iff] at found
  rcases found with found | ⟨_, found | ⟨_, found | ⟨_, found |
    ⟨_, found | ⟨_, found | ⟨_, found⟩⟩⟩⟩⟩⟩
  · exact length_lt_of_codeSpan? _ _ _ _ found
  · exact length_lt_of_strongSpan? _ _ _ _ found
  · exact length_lt_of_strongSpan? _ _ _ _ found
  · exact length_lt_of_emphasisSpan? _ _ _ _ found
  · exact length_lt_of_lowEmphasisSpan? _ _ _ _ found
  · exact length_lt_of_linkSpan? _ _ _ found
  · exact length_lt_of_referenceSpan? _ _ _ found

/-- The style of a kind of span. -/
def SpanKind.style : SpanKind → String
  | .code => "33"
  | .strong => "1"
  | .emphasis => "3"
  | .link => "4"

/-- A text with its spans styled, given the character before it. -/
def renderSpans (colored : Bool) (before : Option Char) (text : List Char) :
    List Char :=
  match found : readSpan? before text with
  | some (span, after) =>
    let used := text.take (text.length - after.length)
    Terminal.inStyle colored span.kind.style span.content ++
      renderSpans colored used.getLast? after
  | none =>
    match text with
    | [] => []
    | char :: rest => char :: renderSpans colored (some char) rest
termination_by text.length
decreasing_by
  · exact length_lt_of_readSpan? _ _ _ _ found
  · simp

/-- A text with its spans styled. -/
def renderInline (colored : Bool) (text : List Char) : List Char :=
  renderSpans colored none text

end CrateShelf.Markdown
