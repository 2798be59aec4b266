import CrateShelf.Text.Blank
import CrateShelf.Text.CharClass
import CrateShelf.Text.Lines

/-!
# Blocks of lines

A document is a list of lines that is read as a list of blocks: code, headings,
rules, quotes, lists and paragraphs.  Only quotes contain blocks.  Every block
takes up at least one line, and the lines of a quote are shorter than the
lines they were written on; so reading ends.
-/

namespace CrateShelf.Markdown

/-- The text of one line. -/
abbrev Line := List Char

/-- An entry of a list: its indentation, its marker and its text. -/
structure ListItem where
  indent : Nat
  marker : Line
  text : Line
deriving DecidableEq, Repr

/-- A block of a document. -/
inductive Block where
  /-- Code between fences; the information says its language. -/
  | fencedCode (information : Line) (lines : List Line)
  /-- Code set off by four spaces. -/
  | indentedCode (lines : List Line)
  | heading (level : Nat) (title : Line)
  | rule
  | quote (blocks : List Block)
  | list (items : List ListItem)
  | paragraph (text : Line)

mutual

/-- How many quotes stand in each other in a block at most. -/
def Block.depth : Block → Nat
  | .quote blocks => depthOf blocks + 1
  | _ => 0

/-- How many quotes stand in each other in some blocks at most. -/
def depthOf : List Block → Nat
  | [] => 0
  | block :: rest => max block.depth (depthOf rest)

end

/-! ## The shapes of lines -/

/-- The line without its indentation, if that is at most three blanks. -/
def dropIndent? (line : Line) : Option Line :=
  if (line.takeWhile Text.isBlank).length ≤ 3 then
    some (Text.trimStart line)
  else none

/-- The run of a mark at the start of a text, if it is long enough. -/
def run? (mark : Char) (least : Nat) (text : Line) : Option (Line × Line) :=
  let marks := text.takeWhile (· = mark)
  if least ≤ marks.length then some (marks, text.dropWhile (· = mark))
  else none

/-- The fence on a line and the information after it. -/
def fence? (line : Line) : Option (Line × Line) :=
  let text := Text.trimStart line
  (run? '\x60' 3 text <|> run? '~' 3 text).map fun (marker, rest) =>
    (marker, Text.trimStart rest)

/-- A title without the hash signs that may close it. -/
def openTitle (text : Line) : Line :=
  Text.trimEnd
    ((Text.trimEnd text).reverse.dropWhile (· = '#')).reverse

/-- The level and the title of the heading on a line. -/
def heading? (line : Line) : Option (Nat × Line) := do
  let text ← dropIndent? line
  let (marks, rest) ← run? '#' 1 text
  if marks.length ≤ 6 ∧ (rest.head?.any Text.isBlank) then
    some (marks.length, openTitle (Text.trimStart rest))
  else none

/-- Whether a line is a rule: at least three of one mark and nothing else but
blanks. -/
def isRule (line : Line) : Bool :=
  match dropIndent? line with
  | some (mark :: rest) =>
    (mark = '-' || mark = '*' || mark = '_') &&
      (rest.all fun char => char = mark || Text.isBlank char) &&
      2 ≤ rest.count mark
  | _ => false

/-- The text of a line of a quote. -/
def quoted? (line : Line) : Option Line :=
  match dropIndent? line with
  | some ('>' :: blank :: rest) =>
    if Text.isBlank blank then some rest else some (blank :: rest)
  | some ['>'] => some []
  | _ => none

/-- The marker of a list entry at the start of a text. -/
def listMarker? (text : Line) : Option (Line × Line) :=
  match text with
  | [] => none
  | first :: rest =>
    if first = '-' || first = '*' || first = '+' then some ([first], rest)
    else
      let digits := text.takeWhile Text.isDecimal
      match text.dropWhile Text.isDecimal with
      | [] => none
      | mark :: rest =>
        if !digits.isEmpty && (mark = '.' || mark = ')') then
          some (digits ++ [mark], rest)
        else none

/-- The list entry that begins on a line. -/
def listItem? (line : Line) : Option ListItem := do
  let (marker, rest) ← listMarker? (Text.trimStart line)
  if rest.head?.any Text.isBlank then
    some ⟨(line.takeWhile Text.isBlank).length, marker, Text.trimStart rest⟩
  else none

/-- Whether a line begins a block of its own inside a paragraph. -/
def startsBlock (line : Line) : Bool :=
  (fence? line).isSome || (heading? line).isSome || isRule line ||
    (quoted? line).isSome || (listItem? line).isSome

/-- The line without four spaces, if it begins with them. -/
def code? : Line → Option Line
  | ' ' :: ' ' :: ' ' :: ' ' :: rest => some rest
  | _ => none

/-! ## Taking lines -/

/-- Whether a line does not close code that a fence opened. -/
def staysFenced (marker line : Line) : Bool :=
  !marker.isPrefixOf (Text.trim line)

/-- Whether a line goes on with indented code. -/
def staysIndented (line : Line) : Bool :=
  (code? line).isSome || Text.isBlankText line

/-- Whether a line goes on with a paragraph. -/
def staysParagraph (line : Line) : Bool :=
  !Text.isBlankText line && !startsBlock line

/-- Lines without the blank ones at their end. -/
def dropBlankEnd (lines : List Line) : List Line :=
  (lines.reverse.dropWhile Text.isBlankText).reverse

/-- Lines as one, without blanks at the ends of each. -/
def joinLines (lines : List Line) : Line :=
  [' '].intercalate (lines.map Text.trim)

/-- The texts of the quoted lines at the start of some lines, and the lines
after them. -/
def takeQuoted : List Line → List Line × List Line
  | [] => ([], [])
  | line :: rest =>
    match quoted? line with
    | some text =>
      let more := takeQuoted rest
      (text :: more.1, more.2)
    | none => ([], line :: rest)

/-- Whether a line goes on with the list entry before it. -/
def continuesItem (line : Line) : Bool :=
  !Text.isBlankText line && (listItem? line).isNone && (fence? line).isNone

/-- Lines without the first, if that is blank and a list entry follows. -/
def dropGap : List Line → List Line
  | first :: second :: rest =>
    if Text.isBlankText first && (listItem? second).isSome then
      second :: rest
    else first :: second :: rest
  | lines => lines

theorem length_dropGap_le (lines : List Line) :
    (dropGap lines).length ≤ lines.length := by
  unfold dropGap
  split
  · split <;> simp
  · exact Nat.le_refl _

/-- A list entry with the lines that go on with it. -/
def ListItem.extend (item : ListItem) (rest : List Line) : ListItem :=
  { item with
    text := [' '].intercalate
      (item.text :: (rest.takeWhile continuesItem).map Text.trim) }

/-- The lines after those that go on with a list entry. -/
def afterItem (rest : List Line) : List Line :=
  dropGap (rest.dropWhile continuesItem)

theorem length_afterItem_le (rest : List Line) :
    (afterItem rest).length ≤ rest.length :=
  Nat.le_trans (length_dropGap_le _) (List.dropWhile_suffix _).length_le

/-- The list entries at the start of some lines, and the lines after them. -/
def takeItems (lines : List Line) : List ListItem × List Line :=
  match lines with
  | [] => ([], [])
  | line :: rest =>
    match listItem? line with
    | none => ([], line :: rest)
    | some item =>
      let more := takeItems (afterItem rest)
      (item.extend rest :: more.1, more.2)
termination_by lines.length
decreasing_by
  exact Nat.lt_succ_of_le (length_afterItem_le rest)

/-! ## Reading blocks -/

/-- What lines amount to: their characters and their ends. -/
def bulk : List Line → Nat
  | [] => 0
  | line :: rest => line.length + 1 + bulk rest

@[simp]
theorem bulk_nil : bulk [] = 0 := rfl

@[simp]
theorem bulk_cons (line : Line) (rest : List Line) :
    bulk (line :: rest) = line.length + 1 + bulk rest := rfl

theorem bulk_dropWhile_le (test : Line → Bool) (lines : List Line) :
    bulk (lines.dropWhile test) ≤ bulk lines := by
  induction lines with
  | nil => simp
  | cons line rest inductionStep =>
    simp only [List.dropWhile_cons]
    split
    · simp only [bulk_cons]
      omega
    · exact Nat.le_refl _

theorem bulk_drop_le (count : Nat) (lines : List Line) :
    bulk (lines.drop count) ≤ bulk lines := by
  induction lines generalizing count with
  | nil => simp
  | cons line rest inductionStep =>
    cases count with
    | zero => exact Nat.le_refl _
    | succ count =>
      have smaller := inductionStep count
      simp only [List.drop_succ_cons, bulk_cons]
      omega

theorem bulk_dropFenced_le (marker : Line) (lines : List Line) :
    bulk ((lines.dropWhile (staysFenced marker)).drop 1) ≤ bulk lines :=
  Nat.le_trans (bulk_drop_le 1 _) (bulk_dropWhile_le _ lines)

theorem bulk_dropGap_le (lines : List Line) :
    bulk (dropGap lines) ≤ bulk lines := by
  unfold dropGap
  split
  · split
    · simp only [bulk_cons]
      omega
    · exact Nat.le_refl _
  · exact Nat.le_refl _

theorem bulk_afterItem_le (lines : List Line) :
    bulk (afterItem lines) ≤ bulk lines :=
  Nat.le_trans (bulk_dropGap_le _) (bulk_dropWhile_le _ lines)

theorem bulk_takeItems_le (lines : List Line) :
    bulk (takeItems lines).2 ≤ bulk lines := by
  fun_induction takeItems lines with
  | case1 => simp
  | case2 line rest noItem => exact Nat.le_refl _
  | case3 line rest item isItem more inductionStep =>
    have smaller := bulk_afterItem_le rest
    simp only [bulk_cons]
    simp only [more]
    omega

theorem length_dropIndent?_le (line text : Line)
    (dropped : dropIndent? line = some text) : text.length ≤ line.length := by
  simp only [dropIndent?] at dropped
  split at dropped
  · simp only [Option.some.injEq] at dropped
    rw [← dropped]
    exact (List.dropWhile_suffix _).length_le
  · cases dropped

/-- The text of a quoted line is shorter than the line. -/
theorem length_lt_of_quoted? (line text : Line)
    (found : quoted? line = some text) : text.length < line.length := by
  unfold quoted? at found
  split at found
  · rename_i blank rest dropped
    have bound := length_dropIndent?_le _ _ dropped
    simp only [List.length_cons] at bound
    split at found <;> simp only [Option.some.injEq] at found <;>
      subst found
    · omega
    · simp only [List.length_cons]
      omega
  · rename_i dropped
    have bound := length_dropIndent?_le _ _ dropped
    simp only [Option.some.injEq] at found
    subst found
    simp only [List.length_cons, List.length_nil] at bound ⊢
    omega
  · cases found

/-- Quoted lines and the lines after them amount to no more than all the
lines. -/
theorem bulk_takeQuoted_le (lines : List Line) :
    bulk (takeQuoted lines).1 + bulk (takeQuoted lines).2 ≤ bulk lines := by
  fun_induction takeQuoted lines with
  | case1 => simp
  | case2 line rest text found more inductionStep =>
    have shorter := length_lt_of_quoted? line text found
    simp only [bulk_cons]
    simp only [more]
    omega
  | case3 line rest noQuote => simp

/-- The quoted lines amount to less if there is one. -/
theorem bulk_takeQuoted_lt (line : Line) (rest : List Line)
    (isQuote : (quoted? line).isSome) :
    bulk (takeQuoted (line :: rest)).1 < bulk (line :: rest) ∧
      bulk (takeQuoted (line :: rest)).2 < bulk (line :: rest) := by
  obtain ⟨text, found⟩ := Option.isSome_iff_exists.1 isQuote
  have shorter := length_lt_of_quoted? line text found
  have bound := bulk_takeQuoted_le rest
  simp only [takeQuoted, found, bulk_cons]
  omega

/-- The blocks of a list of lines. -/
def readBlocks (lines : List Line) : List Block :=
  match lines with
  | [] => []
  | line :: rest =>
    if Text.isBlankText line then readBlocks rest
    else
      match fence? line with
      | some (marker, information) =>
        .fencedCode information (rest.takeWhile (staysFenced marker)) ::
          readBlocks ((rest.dropWhile (staysFenced marker)).drop 1)
      | none =>
        if (code? line).isSome then
          let body := line :: rest.takeWhile staysIndented
          .indentedCode (dropBlankEnd (body.map (·.drop 4))) ::
            readBlocks (rest.dropWhile staysIndented)
        else
          match heading? line with
          | some (level, title) => .heading level title :: readBlocks rest
          | none =>
            if isRule line then .rule :: readBlocks rest
            else if isQuote : (quoted? line).isSome then
              .quote (readBlocks (takeQuoted (line :: rest)).1) ::
                readBlocks (takeQuoted (line :: rest)).2
            else
              match listItem? line with
              | some item =>
                let more := takeItems (afterItem rest)
                .list (item.extend rest :: more.1) ::
                  readBlocks more.2
              | none =>
                .paragraph
                    (joinLines (line :: rest.takeWhile staysParagraph)) ::
                  readBlocks (rest.dropWhile staysParagraph)
termination_by bulk lines
decreasing_by
  · simp only [bulk_cons]
    omega
  · have bound := bulk_dropFenced_le marker rest
    simp only [bulk_cons]
    omega
  · have bound := bulk_dropWhile_le staysIndented rest
    simp only [bulk_cons]
    omega
  · simp only [bulk_cons]
    omega
  · simp only [bulk_cons]
    omega
  · exact (bulk_takeQuoted_lt line rest isQuote).1
  · exact (bulk_takeQuoted_lt line rest isQuote).2
  · have after := bulk_afterItem_le rest
    have bound := bulk_takeItems_le (afterItem rest)
    simp only [bulk_cons]
    omega
  · have bound := bulk_dropWhile_le staysParagraph rest
    simp only [bulk_cons]
    omega

end CrateShelf.Markdown
