import CrateShelf.Proofs.ItemPath
import CrateShelf.Tree.TypeName
import Mathlib.Data.List.Count

/-!
# Type expressions and the paths they name

A type expression is read for the path in it.  Generic arguments are passed
over by counting angle brackets, so it matters which brackets of a text are
none: the arrow of a function type ends with one, and the length of an array
may hold some as operators.

Main statement: generic arguments without such brackets have no influence on
the path; those with an arrow always have.
-/

namespace CrateShelf.Tree

/-! ## Nested brackets -/

/-- Whether a text holds no angle bracket. -/
def isBracketFree (text : List Char) : Bool :=
  text.all fun char => char != '<' && char != '>'

/-- The angle brackets in a text are nested, apart from stray ones. -/
inductive IsNested : List Char → List Char → Prop where
  | plain {text : List Char} (free : isBracketFree text = true) :
    IsNested text []
  | stray {char : Char} (bracket : char = '<' ∨ char = '>') :
    IsNested [char] [char]
  | group {text strays : List Char} (inside : IsNested text strays) :
    IsNested ('<' :: text ++ ['>']) strays
  | append {text strays more others : List Char}
      (first : IsNested text strays) (second : IsNested more others) :
    IsNested (text ++ more) (strays ++ others)

variable {text more strays others : List Char}

theorem isBracketFree_iff :
    isBracketFree text = true ↔ '<' ∉ text ∧ '>' ∉ text := by
  simp only [isBracketFree, List.all_eq_true, Bool.and_eq_true, bne_iff_ne]
  constructor
  · intro free
    exact ⟨fun member => (free _ member).1 rfl,
      fun member => (free _ member).2 rfl⟩
  · rintro ⟨noOpening, noClosing⟩ char member
    exact ⟨fun same => noOpening (same ▸ member),
      fun same => noClosing (same ▸ member)⟩

theorem IsNested.append_free
    (nested : IsNested text strays)
    (free : isBracketFree more = true) :
    IsNested (text ++ more) strays := by
  simpa using nested.append (.plain free)

theorem IsNested.free_append
    (nested : IsNested more strays)
    (free : isBracketFree text = true) :
    IsNested (text ++ more) strays := by
  simpa using (IsNested.plain free).append nested

theorem IsNested.bracket_of_mem
    {char : Char}
    (nested : IsNested text strays)
    (member : char ∈ strays) :
    char = '<' ∨ char = '>' := by
  induction nested with
  | plain free => cases member
  | stray bracket =>
      rw [List.mem_singleton] at member
      exact member ▸ bracket
  | group inside inductionStep => exact inductionStep member
  | append first second firstStep secondStep =>
      rcases List.mem_append.1 member with before | after
      · exact firstStep before
      · exact secondStep after

/-- Brackets that are not stray come in pairs. -/
theorem IsNested.count_eq
    (nested : IsNested text strays) :
    text.count '<' + strays.count '>' = text.count '>' + strays.count '<' := by
  induction nested with
  | plain free =>
      obtain ⟨noOpening, noClosing⟩ := isBracketFree_iff.1 free
      rw [List.count_eq_zero.2 noOpening, List.count_eq_zero.2 noClosing]
      rfl
  | stray bracket =>
      rw [Nat.add_comm]
  | group inside inductionStep =>
      simp only [List.cons_append, List.count_cons, List.count_append,
        List.count_nil]
      simp
      omega
  | append first second firstStep secondStep =>
      simp only [List.count_append]
      omega

/-! ## Passing over brackets -/

theorem stripGenericsFrom_opening (depth : Nat) (rest : List Char) :
    stripGenericsFrom depth ('<' :: rest) =
      stripGenericsFrom (depth + 1) rest := by
  rw [stripGenericsFrom.eq_def]
  rfl

theorem stripGenericsFrom_closing (depth : Nat) (rest : List Char) :
    stripGenericsFrom (depth + 1) ('>' :: rest) =
      stripGenericsFrom depth rest := by
  rw [stripGenericsFrom.eq_def]
  rfl

theorem stripGenericsFrom_kept
    {char : Char}
    (noOpening : char ≠ '<')
    (rest : List Char) :
    stripGenericsFrom 0 (char :: rest) = char :: stripGenericsFrom 0 rest := by
  simp [stripGenericsFrom, noOpening]

theorem stripGenericsFrom_passed
    {char : Char}
    (noOpening : char ≠ '<')
    (noClosing : char ≠ '>')
    (depth : Nat)
    (rest : List Char) :
    stripGenericsFrom (depth + 1) (char :: rest) =
      stripGenericsFrom (depth + 1) rest := by
  simp [stripGenericsFrom, noOpening, noClosing]

theorem stripGenericsFrom_zero_append
    (plain : '<' ∉ text)
    (rest : List Char) :
    stripGenericsFrom 0 (text ++ rest) =
      text ++ stripGenericsFrom 0 rest := by
  induction text with
  | nil => rfl
  | cons char text inductionStep =>
      rw [List.mem_cons, not_or] at plain
      rw [List.cons_append, stripGenericsFrom_kept (Ne.symm plain.1),
        inductionStep plain.2, List.cons_append]

theorem stripGenericsFrom_succ_append
    (free : isBracketFree text = true)
    (depth : Nat)
    (rest : List Char) :
    stripGenericsFrom (depth + 1) (text ++ rest) =
      stripGenericsFrom (depth + 1) rest := by
  induction text with
  | nil => rfl
  | cons char text inductionStep =>
      simp only [isBracketFree, List.all_cons, Bool.and_eq_true,
        bne_iff_ne] at free
      obtain ⟨⟨noOpening, noClosing⟩, others⟩ := free
      rw [List.cons_append, stripGenericsFrom_passed noOpening noClosing,
        inductionStep others]

/-- Nothing of a text inside of brackets is kept if none of its brackets
closes too much; those that open too much stay open. -/
theorem IsNested.stripGenericsFrom_append
    (nested : IsNested text strays)
    (opening : '>' ∉ strays)
    (depth : Nat)
    (rest : List Char) :
    stripGenericsFrom (depth + 1) (text ++ rest) =
      stripGenericsFrom (depth + 1 + strays.length) rest := by
  induction nested generalizing depth rest with
  | plain free => exact stripGenericsFrom_succ_append free depth rest
  | stray bracket =>
      rcases bracket with rfl | rfl
      · exact stripGenericsFrom_opening (depth + 1) rest
      · exact absurd (List.mem_singleton_self _) opening
  | group inside inductionStep =>
      rw [List.append_assoc, List.cons_append, stripGenericsFrom_opening,
        inductionStep opening, List.singleton_append, Nat.add_right_comm,
        stripGenericsFrom_closing]
  | append first second firstStep secondStep =>
      rw [List.mem_append, not_or] at opening
      rw [List.append_assoc, firstStep opening.1, Nat.add_right_comm,
        secondStep opening.2, List.length_append]
      congr 1
      omega

/-- A closing bracket is kept unless an opening one goes with it. -/
theorem count_le_count_stripGenericsFrom
    (depth : Nat)
    (text : List Char) :
    text.count '>' ≤
      (stripGenericsFrom depth text).count '>' + text.count '<' + depth := by
  induction text generalizing depth with
  | nil => simp
  | cons char rest inductionStep =>
      by_cases opens : char = '<'
      · have others := inductionStep (depth + 1)
        rw [opens, stripGenericsFrom_opening, List.count_cons_self,
          List.count_cons_of_ne (by decide)]
        omega
      · rw [List.count_cons_of_ne opens]
        cases depth with
        | zero =>
            have others := inductionStep 0
            rw [stripGenericsFrom_kept opens, List.count_cons,
              List.count_cons]
            omega
        | succ depth =>
            by_cases closes : char = '>'
            · have others := inductionStep depth
              rw [closes, stripGenericsFrom_closing, List.count_cons_self]
              omega
            · rw [stripGenericsFrom_passed opens closes,
                List.count_cons_of_ne closes]
              exact inductionStep (depth + 1)

/-! ## Generic arguments -/

/-- What a piece of a type expression is. -/
inductive Phrase where
  | path
  | lifetime
  | literal
  /-- The types in parentheses that a function or a tuple is made of. -/
  | inputs
  /-- Generic arguments with their brackets. -/
  | brackets
  /-- The lifetimes of `for` before a type. -/
  | quantifier
  /-- A type, maybe as one with a trait, of which a path goes on. -/
  | qualifier
  | type
  /-- The type of the elements of an array, and their number. -/
  | row
  | argument
  | arguments
  /-- The inside of an expression or of a call of a macro. -/
  | tokens
  | delimited
deriving DecidableEq

/-- Phrases that are spelled in one way. -/
def fixedTexts : List (String × Phrase) :=
  [("!", .type), ("...", .argument), ("", .arguments)]

/-- Phrases that count as phrases of another kind. -/
def widenings : List (Phrase × Phrase) :=
  [ (.path, .type), (.lifetime, .type), (.inputs, .type),
    (.type, .qualifier), (.type, .argument), (.literal, .argument),
    (.argument, .arguments) ]

/-- Words and marks that a phrase can have in front of it. -/
def fronts : List (String × Phrase × Phrase) :=
  [ ("::", .path, .path), ("&", .type, .type), ("*", .type, .type),
    ("?", .type, .type), ("mut", .type, .type), ("const", .type, .type),
    ("dyn", .type, .type), ("impl", .type, .type), ("unsafe", .type, .type),
    ("extern", .type, .type), ("for", .brackets, .quantifier),
    ("use", .brackets, .type), ("-", .argument, .argument) ]

/-- Marks that two phrases can have between them. -/
def joints : List (Phrase × String × Phrase × Phrase) :=
  [ (.path, "::", .path, .path), (.path, "", .brackets, .path),
    (.path, "::", .brackets, .path), (.path, "", .inputs, .path),
    (.path, "!", .delimited, .type), (.lifetime, "", .type, .type),
    (.literal, "", .type, .type), (.quantifier, "", .type, .type),
    (.type, "+", .type, .type), (.type, "as", .path, .qualifier),
    (.type, ";", .tokens, .row), (.path, "=", .argument, .argument),
    (.path, ":", .type, .argument),
    (.argument, ",", .arguments, .arguments) ]

/-- Brackets, other than angle brackets, that a phrase can stand in. -/
def enclosures : List (String × Phrase × String × Phrase) :=
  [ ("(", .arguments, ")", .inputs), ("[", .type, "]", .type),
    ("[", .row, "]", .type), ("\x7b", .tokens, "\x7d", .argument),
    ("(", .tokens, ")", .delimited), ("[", .tokens, "]", .delimited),
    ("\x7b", .tokens, "\x7d", .delimited) ]

/-- Phrases that can stand in angle brackets. -/
def angled : List (Phrase × Phrase) :=
  [(.arguments, .brackets), (.qualifier, .path)]

/-- Whether a text is a name. -/
def isName (text : List Char) : Bool :=
  !text.isEmpty && text.all fun char => Text.isWordChar char || char == '#'

/-- How a phrase of a type expression can be spelled, and which angle brackets
in it are stray: those of arrows, and some in expressions, in calls of macros
and in literals. -/
inductive Spells : Phrase → List Char → List Char → Prop where
  | name {text : List Char} (named : isName text = true) :
    Spells .path text []
  | lifetime {text : List Char} (named : isName text = true) :
    Spells .lifetime ('\'' :: text) []
  | quoted {mark : Char} {text strays : List Char}
      (isMark : mark = '\'' ∨ mark = '"') (nested : IsNested text strays) :
    Spells .literal ([mark] ++ text ++ [mark]) strays
  | tokens {text strays : List Char} (nested : IsNested text strays) :
    Spells .tokens text strays
  | fixed {text : String} {phrase : Phrase}
      (known : (text, phrase) ∈ fixedTexts) :
    Spells phrase text.toList []
  | spaced {phrase : Phrase} {before text after strays : List Char}
      (blankBefore : Text.isBlankText before = true)
      (blankAfter : Text.isBlankText after = true)
      (spells : Spells phrase text strays) :
    Spells phrase (before ++ text ++ after) strays
  | widened {phrase wider : Phrase} {text strays : List Char}
      (known : (phrase, wider) ∈ widenings)
      (spells : Spells phrase text strays) :
    Spells wider text strays
  | fronted {front : String} {phrase whole : Phrase}
      {text strays : List Char}
      (known : (front, phrase, whole) ∈ fronts)
      (spells : Spells phrase text strays) :
    Spells whole (front.toList ++ text) strays
  | joined {joint : String} {first second whole : Phrase}
      {text strays more others : List Char}
      (known : (first, joint, second, whole) ∈ joints)
      (before : Spells first text strays)
      (after : Spells second more others) :
    Spells whole (text ++ joint.toList ++ more) (strays ++ others)
  | enclosed {opening closing : String} {phrase whole : Phrase}
      {text strays : List Char}
      (known : (opening, phrase, closing, whole) ∈ enclosures)
      (spells : Spells phrase text strays) :
    Spells whole (opening.toList ++ text ++ closing.toList) strays
  | angled {phrase whole : Phrase} {text strays : List Char}
      (known : (phrase, whole) ∈ angled)
      (spells : Spells phrase text strays) :
    Spells whole ('<' :: text ++ ['>']) strays
  /-- The type of what a function returns, after an arrow. -/
  | returning {text strays more others : List Char}
      (called : Spells .path text strays)
      (result : Spells .type more others) :
    Spells .path (text ++ "->".toList ++ more) (strays ++ '>' :: others)

theorem isBracketFree_of_isBlankText
    (blank : Text.isBlankText text = true) :
    isBracketFree text = true := by
  rw [Text.isBlankText, List.all_eq_true] at blank
  rw [isBracketFree_iff]
  constructor
  · intro member
    cases blank _ member
  · intro member
    cases blank _ member

theorem isBracketFree_of_isName
    (named : isName text = true) :
    isBracketFree text = true := by
  rw [isName, Bool.and_eq_true, List.all_eq_true] at named
  rw [isBracketFree_iff]
  constructor
  · intro member
    exact absurd (named.2 _ member) (by decide)
  · intro member
    exact absurd (named.2 _ member) (by decide)

theorem isBracketFree_fixedTexts :
    ∀ entry ∈ fixedTexts, isBracketFree entry.1.toList = true := by
  decide

theorem isBracketFree_fronts :
    ∀ entry ∈ fronts, isBracketFree entry.1.toList = true := by
  decide

theorem isBracketFree_joints :
    ∀ entry ∈ joints, isBracketFree entry.2.1.toList = true := by
  decide

theorem isBracketFree_enclosures :
    ∀ entry ∈ enclosures, isBracketFree entry.1.toList = true ∧
      isBracketFree entry.2.2.1.toList = true := by
  decide

/-- The brackets of a phrase are nested, apart from those known as stray. -/
theorem Spells.isNested
    {phrase : Phrase}
    (spells : Spells phrase text strays) :
    IsNested text strays := by
  induction spells with
  | name named => exact .plain (isBracketFree_of_isName named)
  | @lifetime text named =>
      have apostrophe : isBracketFree ['\''] = true := rfl
      exact (IsNested.plain (isBracketFree_of_isName named)).free_append
        apostrophe
  | @quoted mark text strays isMark nested =>
      have free : isBracketFree [mark] = true := by
        rcases isMark with rfl | rfl
        · rfl
        · rfl
      exact (nested.free_append free).append_free free
  | tokens nested => exact nested
  | fixed known => exact .plain (isBracketFree_fixedTexts _ known)
  | spaced blankBefore blankAfter spells inductionStep =>
      exact (inductionStep.free_append
        (isBracketFree_of_isBlankText blankBefore)).append_free
          (isBracketFree_of_isBlankText blankAfter)
  | widened known spells inductionStep => exact inductionStep
  | fronted known spells inductionStep =>
      exact inductionStep.free_append (isBracketFree_fronts _ known)
  | joined known before after firstStep secondStep =>
      exact (firstStep.append_free (isBracketFree_joints _ known)).append
        secondStep
  | enclosed known spells inductionStep =>
      obtain ⟨opens, closes⟩ := isBracketFree_enclosures _ known
      exact (inductionStep.free_append opens).append_free closes
  | angled known spells inductionStep => exact .group inductionStep
  | returning called result firstStep secondStep =>
      have dash : isBracketFree ['-'] = true := rfl
      have arrow := (firstStep.append_free dash).append (.stray (Or.inr rfl))
      simpa using arrow.append secondStep

/-! ## Texts of paths -/

/-- Whether a text can be part of a path: it holds no blank, and no bracket
or mark that a type expression is read for. -/
def isPathText (text : List Char) : Bool :=
  text.all fun char =>
    !Text.isBlank char && !(['<', '>', '&', '\'', '*'].contains char)

theorem isPathText_iff :
    isPathText text = true ↔ ∀ char ∈ text,
      Text.isBlank char = false ∧ char ∉ ['<', '>', '&', '\'', '*'] := by
  simp [isPathText]

theorem isPathText_append
    (first : isPathText text = true)
    (second : isPathText more = true) :
    isPathText (text ++ more) = true := by
  rw [isPathText, List.all_append, Bool.and_eq_true]
  exact ⟨first, second⟩

theorem not_mem_of_isPathText
    (isText : isPathText text = true) :
    '<' ∉ text ∧ '>' ∉ text := by
  rw [isPathText_iff] at isText
  exact ⟨fun member => (isText _ member).2 (by simp),
    fun member => (isText _ member).2 (by simp)⟩

/-- A word only counts if a blank follows it. -/
theorem afterWord?_eq_none
    {word : String}
    (unblank : ∀ char rest, text = word.toList ++ char :: rest →
      Text.isBlank char = false) :
    afterWord? word text = none := by
  unfold afterWord?
  split
  · rename_i starts
    obtain ⟨rest, rfl⟩ := List.isPrefixOf_iff_prefix.1 starts
    rw [← String.length_toList, List.drop_left]
    cases rest with
    | nil => rfl
    | cons char rest =>
        dsimp only
        rw [unblank char rest rfl]
        rfl
  · rfl

/-- What begins like a path and ends there, or goes on with a bracket. -/
structure IsBare (text more : List Char) : Prop where
  isText : isPathText text = true
  ends : more = [] ∨ ∃ rest, more = '<' :: rest

/-- A character of a path, or the bracket after it, is not blank. -/
theorem IsBare.isBlank_of_word
    {word after : List Char}
    {char : Char}
    (bare : IsBare text more)
    (noBracket : '<' ∉ word)
    (shape : text ++ more = word ++ char :: after) :
    Text.isBlank char = false := by
  rcases List.append_eq_append_iff.1 shape with
    ⟨others, rfl, following⟩ | ⟨others, rfl, following⟩
  · -- The word goes past the path, so it would hold the bracket.
    rcases bare.ends with rfl | ⟨rest, rfl⟩
    · simp at following
    · cases others with
      | nil =>
          cases following
          decide
      | cons first others =>
          cases following
          simp at noBracket
  · cases others with
    | nil =>
        rcases bare.ends with rfl | ⟨rest, rfl⟩
        · cases following
        · cases following
          decide
    | cons first others =>
        cases following
        exact (isPathText_iff.1 bare.isText char (by simp)).1

/-- A path has no mark in front of it. -/
theorem IsBare.afterMark?_eq_none
    (bare : IsBare text more) :
    afterMark? (text ++ more) = none := by
  have noMark (mark : Char)
      (isMark : mark ∈ ['&', '\'', '*'])
      (rest : List Char) :
      text ++ more ≠ mark :: rest := by
    intro shape
    cases text with
    | nil =>
        rcases bare.ends with rfl | ⟨rest, rfl⟩
        · cases shape
        · cases shape
          revert isMark
          decide
    | cons first text =>
        cases shape
        refine (isPathText_iff.1 bare.isText mark List.mem_cons_self).2 ?_
        exact List.mem_cons_of_mem _ (List.mem_cons_of_mem _ isMark)
  have noWord (word : String) (noBracket : '<' ∉ word.toList) :
      afterWord? word (text ++ more) = none :=
    afterWord?_eq_none fun char after shape =>
      bare.isBlank_of_word noBracket shape
  unfold afterMark?
  split
  · rename_i rest shape
    exact absurd shape (noMark '&' (by decide) rest)
  · rename_i rest shape
    exact absurd shape (noMark '\'' (by decide) rest)
  · rename_i rest shape
    exact absurd shape (noMark '*' (by decide) rest)
  · rw [noWord "mut" (by decide), noWord "dyn" (by decide),
      noWord "impl" (by decide)]
    rfl

theorem dropMarks_of_afterMark?_eq_none
    (unmarked : afterMark? text = none)
    (count : Nat) :
    dropMarks count text = text := by
  cases count with
  | zero => rfl
  | succ count => rw [dropMarks, unmarked]

/-! ## Names -/

/-- The text of the path in a type expression, up to blanks. -/
def bareText (text : List Char) : List Char :=
  stripGenerics (dropMarks (Text.trim text).length (Text.trim text))

theorem typeNames_congr
    {text other : String}
    (same : bareText text.toList = bareText other.toList) :
    typeNames text = typeNames other := by
  unfold bareText at same
  unfold typeNames
  dsimp only
  rw [same]

/-- Nothing but generic arguments is taken out of a path. -/
theorem IsBare.bareText_eq
    (bare : IsBare text more)
    (last : ∀ char ∈ (text ++ more).getLast?, Text.isBlank char = false) :
    bareText (text ++ more) = text ++ stripGenericsFrom 0 more := by
  have first : ∀ char ∈ (text ++ more).head?, Text.isBlank char = false := by
    intro char head
    obtain ⟨after, shape⟩ := List.head?_eq_some_iff.1 head
    exact bare.isBlank_of_word List.not_mem_nil shape
  rw [bareText, Text.trim_eq_self first last,
    dropMarks_of_afterMark?_eq_none bare.afterMark?_eq_none, stripGenerics,
    stripGenericsFrom_zero_append (not_mem_of_isPathText bare.isText).1]

theorem exists_piece_iff
    {char mark : Char}
    (different : char ≠ mark) :
    (∃ piece ∈ Text.splitAtPair mark text, char ∈ piece) ↔ char ∈ text := by
  have put (first : Char) (pieces : List (List Char)) :
      (∃ piece ∈ Text.consFirst first pieces, char ∈ piece) ↔
        char = first ∨ ∃ piece ∈ pieces, char ∈ piece := by
    cases pieces with
    | nil => simp [Text.consFirst]
    | cons piece pieces => simp [Text.consFirst, or_assoc]
  induction text using Text.splitAtPair.induct mark with
  | case1 => simp [Text.splitAtPair]
  | case2 first => simp [Text.splitAtPair]
  | case3 first next rest both inductionStep =>
      rw [Text.splitAtPair, if_pos both, both.1, both.2]
      simp [inductionStep, different]
  | case4 first next rest single inductionStep =>
      rw [Text.splitAtPair, if_neg single, put]
      exact (or_congr_right inductionStep).trans List.mem_cons.symm

theorem exists_segment_iff
    {char : Char}
    (notColon : char ≠ ':')
    (text : String) :
    (∃ name ∈ (ItemPath.parse text).segments, char ∈ name.toList) ↔
      char ∈ text.toList := by
  rw [← exists_piece_iff notColon]
  constructor
  · rintro ⟨name, member, inside⟩
    obtain ⟨piece, listed, rfl⟩ := List.mem_map.1 member
    exact ⟨piece, (List.mem_filter.1 listed).1, by simpa using inside⟩
  · rintro ⟨piece, member, inside⟩
    refine ⟨String.ofList piece, List.mem_map_of_mem
      (List.mem_filter.2 ⟨member, ?_⟩), by simpa using inside⟩
    rw [Bool.not_eq_true', List.isEmpty_eq_false_iff]
    exact List.ne_nil_of_mem inside

/-- The names of a type hold what is left of its text. -/
theorem exists_typeName_iff
    {char : Char}
    (notColon : char ≠ ':')
    (unblank : Text.isBlank char = false)
    (text : String) :
    (∃ name ∈ typeNames text, char ∈ name.toList) ↔
      char ∈ bareText text.toList := by
  have squeezed : char ∈ Text.squeeze (bareText text.toList) ↔
      char ∈ bareText text.toList := by
    simp [Text.squeeze, unblank]
  have noAnchor : char ∉ UseTable.globalAnchor.toList := by
    simp [UseTable.globalAnchor, notColon]
  have names := exists_segment_iff notColon
    (String.ofList (Text.squeeze (bareText text.toList)))
  rw [String.toList_ofList, squeezed] at names
  rw [← names]
  unfold typeNames bareText
  dsimp only
  split
  · simp [noAnchor]
  · rfl

/-! ## Applied types -/

theorem toList_applied (front arguments back : String) :
    (front ++ "<" ++ arguments ++ ">" ++ back).toList =
      front.toList ++ '<' :: (arguments.toList ++ '>' :: back.toList) := by
  simp

/-- The text before the arguments is kept, and what is left of the rest. -/
theorem bareText_applied
    {front arguments back : List Char}
    (isFront : isPathText front = true)
    (isBack : isPathText back = true) :
    bareText (front ++ '<' :: (arguments ++ '>' :: back)) =
      front ++ stripGenericsFrom 1 (arguments ++ '>' :: back) := by
  have bare : IsBare front ('<' :: (arguments ++ '>' :: back)) :=
    ⟨isFront, Or.inr ⟨_, rfl⟩⟩
  rw [bare.bareText_eq, stripGenericsFrom_opening]
  intro char last
  rw [← List.cons_append, ← List.append_assoc,
    List.getLast?_append_of_ne_nil _ (List.cons_ne_nil _ _)] at last
  rcases List.mem_cons.1 (List.mem_of_getLast? last) with rfl | inBack
  · decide
  · exact (isPathText_iff.1 isBack char inBack).1

theorem bareText_of_isPathText
    (isText : isPathText text = true) :
    bareText text = text := by
  have bare : IsBare text [] := ⟨isText, Or.inl rfl⟩
  have plain := bare.bareText_eq
  rw [List.append_nil] at plain
  rw [plain]
  · exact List.append_nil text
  · intro char last
    exact (isPathText_iff.1 isText char (List.mem_of_getLast? last)).1

/-- Arguments in which too many brackets open take with them what comes after
them. -/
theorem bareText_applied_of_opening
    {front arguments back strays : List Char}
    (isFront : isPathText front = true)
    (isBack : isPathText back = true)
    (nested : IsNested arguments strays)
    (opening : '>' ∉ strays) :
    bareText (front ++ '<' :: (arguments ++ '>' :: back)) =
      front ++ if strays = [] then back else [] := by
  rw [bareText_applied isFront isBack,
    nested.stripGenericsFrom_append opening 0, Nat.add_right_comm,
    stripGenericsFrom_closing, Nat.zero_add]
  congr 1
  have noBracket := not_mem_of_isPathText isBack
  cases strays with
  | nil =>
      have kept := stripGenericsFrom_zero_append noBracket.1 []
      simpa [stripGenericsFrom] using kept
  | cons stray strays =>
      have dropped := stripGenericsFrom_succ_append
        (isBracketFree_iff.2 noBracket) strays.length []
      simpa [stripGenericsFrom] using dropped

/-- Of arguments in which too many brackets close, a bracket is kept. -/
theorem closing_mem_bareText_applied
    {front arguments back strays : List Char}
    (isFront : isPathText front = true)
    (isBack : isPathText back = true)
    (nested : IsNested arguments strays)
    (closing : '<' ∉ strays)
    (some : strays ≠ []) :
    '>' ∈ bareText (front ++ '<' :: (arguments ++ '>' :: back)) := by
  rw [bareText_applied isFront isBack, List.mem_append]
  refine Or.inr (List.count_pos_iff.1 ?_)
  have stray : 0 < strays.count '>' := by
    rw [List.count_pos_iff]
    cases strays with
    | nil => exact absurd rfl some
    | cons stray strays =>
        rcases nested.bracket_of_mem List.mem_cons_self with rfl | rfl
        · exact absurd List.mem_cons_self closing
        · exact List.mem_cons_self
  have pairs := nested.count_eq
  have kept := count_le_count_stripGenericsFrom 1 (arguments ++ '>' :: back)
  obtain ⟨noOpening, noClosing⟩ := not_mem_of_isPathText isBack
  rw [List.count_append, List.count_append, List.count_cons_self,
    List.count_cons_of_ne (by decide), List.count_eq_zero.2 noOpening,
    List.count_eq_zero.2 noClosing] at kept
  rw [List.count_eq_zero.2 closing] at pairs
  omega

/--
Generic arguments in angle brackets after a path, and before more of it, do
not change what type is named exactly when they hold no stray bracket, if all
stray brackets are closing ones, as those of arrows are.  If all are opening
ones, what comes after the arguments is lost.
-/
theorem typeNames_applied
    {front arguments back : String}
    {strays : List Char}
    (isFront : isPathText front.toList = true)
    (isBack : isPathText back.toList = true)
    (spells : Spells .arguments arguments.toList strays) :
    ('<' ∉ strays →
      (typeNames (front ++ "<" ++ arguments ++ ">" ++ back) =
        typeNames (front ++ back) ↔ strays = [])) ∧
    ('>' ∉ strays → strays ≠ [] →
      typeNames (front ++ "<" ++ arguments ++ ">" ++ back) =
        typeNames front) := by
  have nested := spells.isNested
  have isWhole := isPathText_append isFront isBack
  have whole : bareText (front ++ back).toList =
      front.toList ++ back.toList := by
    rw [String.toList_append, bareText_of_isPathText isWhole]
  refine ⟨fun closing => ⟨fun same => ?_, ?_⟩, fun opening some => ?_⟩
  · by_contra some
    have kept := closing_mem_bareText_applied isFront isBack nested closing
      some
    rw [← toList_applied,
      ← exists_typeName_iff (by decide) (by decide), same,
      exists_typeName_iff (by decide) (by decide), whole] at kept
    exact (not_mem_of_isPathText isWhole).2 kept
  · rintro rfl
    apply typeNames_congr
    rw [toList_applied, bareText_applied_of_opening isFront isBack nested
      List.not_mem_nil, if_pos rfl, whole]
  · apply typeNames_congr
    rw [toList_applied, bareText_applied_of_opening isFront isBack nested
      opening, if_neg some, List.append_nil, bareText_of_isPathText isFront]

/-! ## A map and a function -/

theorem spells_type
    (named : isName text = true) :
    Spells .type text [] := by
  have name : Spells .path text [] := .name named
  exact .widened (by decide) name

theorem spells_arguments_of_type
    (spells : Spells .type text strays) :
    Spells .arguments text strays := by
  have argument : Spells .argument text strays := .widened (by decide) spells
  exact .widened (by decide) argument

/-- Generic arguments with some of their own: a type and a list. -/
theorem spells_keyAndList :
    Spells .arguments "K, Vec<V>".toList [] := by
  have applies : (Phrase.path, "", Phrase.brackets, Phrase.path) ∈ joints := by
    decide
  have separates : (Phrase.argument, ",", Phrase.arguments, Phrase.arguments)
      ∈ joints := by
    decide
  have key : Spells .type "K".toList [] :=
    spells_type rfl
  have first : Spells .argument "K".toList [] := .widened (by decide) key
  have value : Spells .type "V".toList [] :=
    spells_type rfl
  have values : Spells .arguments "V".toList [] :=
    spells_arguments_of_type value
  have brackets : Spells .brackets "<V>".toList [] :=
    .angled (by decide) values
  have name : Spells .path "Vec".toList [] := .name rfl
  have list : Spells .path "Vec<V>".toList [] :=
    .joined applies name brackets
  have second : Spells .arguments "Vec<V>".toList [] :=
    spells_arguments_of_type (.widened (by decide) list)
  have rest : Spells .arguments ([' '] ++ "Vec<V>".toList ++ []) [] :=
    .spaced rfl rfl second
  exact .joined separates first rest

theorem typeNames_applied_keyAndList :
    isPathText "Map".toList = true ∧ isPathText "::Entry".toList = true ∧
      Spells .arguments "K, Vec<V>".toList [] ∧
        typeNames ("Map" ++ "<" ++ "K, Vec<V>" ++ ">" ++ "::Entry") =
          typeNames ("Map" ++ "::Entry") := by
  have isFront : isPathText "Map".toList = true := rfl
  have isBack : isPathText "::Entry".toList = true := rfl
  exact ⟨isFront, isBack, spells_keyAndList,
    ((typeNames_applied isFront isBack spells_keyAndList).1
      List.not_mem_nil).2 rfl⟩

/-- The type of a function from one type to another. -/
theorem spells_function :
    Spells .arguments "fn(A) -> B".toList ['>'] := by
  have encloses : ("(", Phrase.arguments, ")", Phrase.inputs) ∈ enclosures :=
    by decide
  have takes : (Phrase.path, "", Phrase.inputs, Phrase.path) ∈ joints := by
    decide
  have input : Spells .type "A".toList [] :=
    spells_type rfl
  have inputs : Spells .inputs "(A)".toList [] :=
    .enclosed encloses (spells_arguments_of_type input)
  have word : Spells .path "fn".toList [] := .name rfl
  have called : Spells .path "fn(A)".toList [] := .joined takes word inputs
  have result : Spells .type "B".toList [] :=
    spells_type rfl
  have before : Spells .path ([] ++ "fn(A)".toList ++ [' ']) [] :=
    .spaced rfl rfl called
  have after : Spells .type ([' '] ++ "B".toList ++ []) [] :=
    .spaced rfl rfl result
  have function : Spells .path "fn(A) -> B".toList ['>'] :=
    .returning before after
  exact spells_arguments_of_type (.widened (by decide) function)

/-- Generic arguments do not always stay out of the path. -/
theorem not_always_passed_over :
    ¬ ∀ front arguments back strays,
      isPathText front.toList = true → isPathText back.toList = true →
      Spells .arguments arguments.toList strays →
        typeNames (front ++ "<" ++ arguments ++ ">" ++ back) =
          typeNames (front ++ back) := by
  intro claimed
  have same := claimed "S" "fn(A) -> B" "" _ rfl rfl
    spells_function
  have whole : typeNames ("S" ++ "<" ++ "fn(A) -> B" ++ ">" ++ "") = ["SB>"] :=
    by decide
  have bare : typeNames ("S" ++ "") = ["S"] := by decide
  rw [whole, bare] at same
  exact absurd same (by decide)

end CrateShelf.Tree
