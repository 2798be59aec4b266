/-!
# Cutting texts at marks

Cutting at a character, at a pair of characters, at the first or the last
mark; looking for one text inside another.

Main statement: joining the pieces with the mark gives the text back.
-/

namespace CrateShelf.Text

/-- Puts a character in front of the first piece. -/
def consFirst (char : Char) : List (List Char) → List (List Char)
  | [] => [[char]]
  | piece :: more => (char :: piece) :: more

/-- The pieces of a text between the occurrences of a character. -/
def splitAt (mark : Char) : List Char → List (List Char)
  | [] => [[]]
  | char :: rest =>
    if char = mark then [] :: splitAt mark rest
    else consFirst char (splitAt mark rest)

/-- The pieces of a text between the occurrences of a doubled character,
taken from left to right without overlap. -/
def splitAtPair (mark : Char) : List Char → List (List Char)
  | [] => [[]]
  | [char] => [[char]]
  | char :: next :: rest =>
    if char = mark ∧ next = mark then [] :: splitAtPair mark rest
    else consFirst char (splitAtPair mark (next :: rest))

/-- The text before the first mark and, if there is a mark, the text
after it. -/
def cutFirst (mark : Char) : List Char → List Char × Option (List Char)
  | [] => ([], none)
  | char :: rest =>
    if char = mark then ([], some rest)
    else ((char :: (cutFirst mark rest).1), (cutFirst mark rest).2)

/-- The text after the last mark, if there is one. -/
def afterLast? (mark : Char) (text : List Char) : Option (List Char) :=
  if mark ∈ text then
    some (text.reverse.takeWhile (· != mark)).reverse
  else none

/-- Whether one text occurs inside another. -/
def occursIn (needle : List Char) : List Char → Bool
  | [] => needle.isEmpty
  | char :: rest =>
    needle.isPrefixOf (char :: rest) || occursIn needle rest

/-- The text without a given ending, if it has it. -/
def dropEnding (ending text : List Char) : List Char :=
  if ending.isSuffixOf text then text.take (text.length - ending.length)
  else text

/-- The text with the occurrences of one character replaced by another. -/
def replaceChar (old new : Char) (text : List Char) : List Char :=
  text.map fun char => if char = old then new else char

theorem length_dropWhile_le {α : Type} (test : α → Bool) (items : List α) :
    (items.dropWhile test).length ≤ items.length := by
  induction items with
  | nil => simp
  | cons item rest inductionStep =>
    simp only [List.dropWhile_cons]
    split
    · exact Nat.le_succ_of_le inductionStep
    · simp

theorem length_le_of_cutFirst (mark : Char) (text before after : List Char)
    (cut : cutFirst mark text = (before, some after)) :
    after.length ≤ text.length := by
  induction text generalizing before with
  | nil => simp [cutFirst] at cut
  | cons char rest inductionStep =>
    simp only [cutFirst] at cut
    split at cut
    · simp only [Prod.mk.injEq, Option.some.injEq] at cut
      simp [cut.2]
    · simp only [Prod.mk.injEq] at cut
      have shorter := inductionStep (cutFirst mark rest).1
        (by rw [← cut.2])
      simp only [List.length_cons]
      omega

@[simp]
theorem consFirst_ne_nil (char : Char) (pieces : List (List Char)) :
    consFirst char pieces ≠ [] := by
  cases pieces <;> simp [consFirst]

/-- There is always a piece. -/
@[simp]
theorem splitAt_ne_nil (mark : Char) (text : List Char) :
    splitAt mark text ≠ [] := by
  cases text with
  | nil => simp [splitAt]
  | cons char rest =>
    simp only [splitAt]
    split <;> simp

/-- There is always a piece. -/
@[simp]
theorem splitAtPair_ne_nil (mark : Char) (text : List Char) :
    splitAtPair mark text ≠ [] := by
  unfold splitAtPair
  split
  · simp
  · simp
  · split <;> simp

theorem intercalate_consFirst (mark : List Char) (char : Char)
    (pieces : List (List Char)) (some : pieces ≠ []) :
    mark.intercalate (consFirst char pieces) =
      char :: mark.intercalate pieces := by
  cases pieces with
  | nil => exact absurd rfl some
  | cons piece more =>
    cases more <;> simp [consFirst, List.intercalate]

theorem intercalate_nil_cons (mark : List Char)
    (pieces : List (List Char)) (some : pieces ≠ []) :
    mark.intercalate ([] :: pieces) = mark ++ mark.intercalate pieces := by
  cases pieces with
  | nil => exact absurd rfl some
  | cons piece more => simp [List.intercalate]

/-- The pieces, joined by the mark, are the text. -/
theorem intercalate_splitAt (mark : Char) (text : List Char) :
    [mark].intercalate (splitAt mark text) = text := by
  induction text with
  | nil => simp [splitAt, List.intercalate]
  | cons char rest inductionStep =>
    simp only [splitAt]
    split
    · rename_i same
      rw [intercalate_nil_cons _ _ (splitAt_ne_nil mark rest),
        inductionStep, same]
      rfl
    · rw [intercalate_consFirst _ _ _ (splitAt_ne_nil mark rest),
        inductionStep]

/-- The pieces, joined by the doubled mark, are the text. -/
theorem intercalate_splitAtPair (mark : Char) (text : List Char) :
    [mark, mark].intercalate (splitAtPair mark text) = text := by
  fun_induction splitAtPair mark text with
  | case1 => simp [List.intercalate]
  | case2 char => simp [List.intercalate]
  | case3 char next rest same inductionStep =>
    rw [intercalate_nil_cons _ _ (splitAtPair_ne_nil mark rest),
      inductionStep, same.1, same.2]
    rfl
  | case4 char next rest different inductionStep =>
    rw [intercalate_consFirst _ _ _ (splitAtPair_ne_nil mark _),
      inductionStep]

end CrateShelf.Text
