/-!
# Blank space

The characters that separate words, in every script, and the operations that
only look at them: trimming, splitting into words, joining words again.

Main statements: the words of a text hold no blank and are not empty, and a
text without blanks is its own only word.
-/

namespace CrateShelf.Text

/-- Whether a character is white space. -/
def isBlank (char : Char) : Bool :=
  let code := char.toNat
  (9 ≤ code && code ≤ 13) || (28 ≤ code && code ≤ 32) ||
    code == 133 || code == 160 || code == 5760 ||
    (8192 ≤ code && code ≤ 8202) || code == 8232 || code == 8233 ||
    code == 8239 || code == 8287 || code == 12288

/-- Every character that the core library calls white space is blank. -/
theorem isBlank_of_isWhitespace (char : Char)
    (white : char.isWhitespace = true) : isBlank char = true := by
  simp only [Char.isWhitespace, Bool.or_eq_true, decide_eq_true_eq] at white
  rcases white with ((white | white) | white) | white <;>
    subst white <;> decide

/-- The text without the blanks before its first character. -/
def trimStart (text : List Char) : List Char :=
  text.dropWhile isBlank

/-- The text without the blanks after its last character. -/
def trimEnd (text : List Char) : List Char :=
  (text.reverse.dropWhile isBlank).reverse

/-- The text without blanks at either end. -/
def trim (text : List Char) : List Char :=
  trimEnd (trimStart text)

/-- Whether a text has no character but blanks. -/
def isBlankText (text : List Char) : Bool :=
  text.all isBlank

/-- The maximal stretches of a text that hold no blank. -/
def words : List Char → List (List Char)
  | [] => []
  | char :: rest =>
    if isBlank char then words rest
    else
      match rest with
      | [] => [[char]]
      | next :: _ =>
        if isBlank next then [char] :: words rest
        else
          match words rest with
          | [] => [[char]]
          | word :: more => (char :: word) :: more

/-- The words of a text, one space between each two. -/
def collapse (text : List Char) : List Char :=
  [' '].intercalate (words text)

/-- The text without any blank. -/
def squeeze (text : List Char) : List Char :=
  text.filter fun char => !isBlank char

/-- A text with no blank at either end has nothing to be trimmed off. -/
theorem trim_eq_self {text : List Char}
    (first : ∀ char ∈ text.head?, isBlank char = false)
    (last : ∀ char ∈ text.getLast?, isBlank char = false) :
    trim text = text := by
  have start : trimStart text = text := by
    cases text with
    | nil => rfl
    | cons char rest =>
      rw [trimStart, List.dropWhile_cons_of_neg]
      simp [first char rfl]
  rw [trim, start, trimEnd]
  cases shape : text.reverse with
  | nil => rw [List.dropWhile_nil, ← shape, List.reverse_reverse]
  | cons char rest =>
    have ends : text.getLast? = some char := by
      rw [← List.head?_reverse, shape]
      rfl
    rw [List.dropWhile_cons_of_neg, ← shape, List.reverse_reverse]
    simp [last char ends]

@[simp]
theorem words_nil : words [] = [] := rfl

theorem words_cons_blank (char : Char) (rest : List Char)
    (blank : isBlank char = true) : words (char :: rest) = words rest := by
  rw [words.eq_def]
  exact if_pos blank

/-- A word is never empty. -/
theorem ne_nil_of_mem_words (text word : List Char)
    (member : word ∈ words text) : word ≠ [] := by
  induction text generalizing word with
  | nil => simp at member
  | cons char rest inductionStep =>
    unfold words at member
    split at member
    · exact inductionStep word member
    · split at member
      · simp_all
      · split at member
        · rcases List.mem_cons.1 member with same | later
          · simp [same]
          · exact inductionStep word later
        · split at member
          · simp_all
          · rename_i shape
            rcases List.mem_cons.1 member with same | later
            · simp [same]
            · exact inductionStep word (by rw [shape]; simp [later])

/-- A word holds no blank. -/
theorem isBlank_eq_false_of_mem_words (text word : List Char)
    (member : word ∈ words text) :
    ∀ char ∈ word, isBlank char = false := by
  induction text generalizing word with
  | nil => simp at member
  | cons char rest inductionStep =>
    unfold words at member
    split at member
    · exact inductionStep word member
    · split at member
      · simp_all
      · split at member
        · rcases List.mem_cons.1 member with same | later
          · simp_all
          · exact inductionStep word later
        · split at member
          · simp_all
          · rename_i shape
            rcases List.mem_cons.1 member with same | later
            · subst same
              intro inner innerMember
              rcases List.mem_cons.1 innerMember with first | deeper
              · simp_all
              · exact inductionStep _ (by rw [shape]; simp) inner deeper
            · exact inductionStep word (by rw [shape]; simp [later])

end CrateShelf.Text
