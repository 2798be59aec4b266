import CrateShelf.Source.Lexeme

/-!
# Rules of a grammar

A grammar says how the phrases of a source file are made of lexemes and other
phrases.  A rule is written as an expression over its parts.  Marks on a part
say which reading is meant when there are several, how the part is called, and
which field of the phrase it is.
-/

namespace CrateShelf.Source

/-- Which of two readings with the same rank is meant: the one that groups to
the left or the one that groups to the right. -/
inductive Side where
  | left
  | right
deriving DecidableEq, Hashable, Repr

/-- What a part of a phrase is called instead of its own name. -/
structure Label where
  name : String
  /-- Whether the part counts as a phrase and not as a word or sign. -/
  isPhrase : Bool
deriving DecidableEq, Hashable, Repr

/-- A rule over parts. -/
inductive Rule (Part : Type) where
  | nothing
  | part (part : Part)
  | both (first second : Rule Part)
  | either (first second : Rule Part)
  /-- Once or more often. -/
  | repeated (rule : Rule Part)
  | ranked (rank : Int) (side : Option Side) (rule : Rule Part)
  | labelled (label : Label) (rule : Rule Part)
  | field (name : String) (rule : Rule Part)
deriving DecidableEq, Repr

/-- A part of a rule as it is written. -/
inductive Mention where
  /-- A lexeme, with the name under which it is shown. -/
  | lexeme (shown : Option String) (lexeme : Lexeme)
  /-- A phrase by its name. -/
  | phrase (name : String)
deriving DecidableEq, Repr

/-- A rule as it is written. -/
abbrev Writing := Rule Mention

namespace Rule

/-- A word or sign. -/
def word (text : String) : Writing :=
  part (.lexeme (some text) (.ofText text))

instance : Coe String Writing := ⟨word⟩

/-- A phrase by its name. -/
def ref (name : String) : Writing := part (.phrase name)

/-- A lexeme that is no given text. -/
def lexeme (lexeme : Lexeme) : Writing := part (.lexeme none lexeme)

/-- A lexeme that is a given text and has a rank. -/
def rankedWord (rank : Int) (text : String) : Writing :=
  part (.lexeme (some text) { pattern := .word text, rank })

/-- A lexeme that is a given text and follows without a blank. -/
def attachedWord (text : String) (rank : Int) : Writing :=
  part (.lexeme (some text)
    { pattern := .word text, rank, isAttached := true })

variable {Part : Type}

/-- Parts in a row. -/
def seq : List (Rule Part) → Rule Part
  | [] => nothing
  | [rule] => rule
  | rule :: rest => both rule (seq rest)

/-- One of several parts. -/
def oneOf : List (Rule Part) → Rule Part
  | [] => nothing
  | [rule] => rule
  | rule :: rest => either rule (oneOf rest)

/-- A part or nothing. -/
def optional (rule : Rule Part) : Rule Part := either rule nothing

/-- A part any number of times. -/
def many (rule : Rule Part) : Rule Part := optional (repeated rule)

/-- Parts with a separator between each two; at least one. -/
def separated1 (separator rule : Rule Part) : Rule Part :=
  both rule (many (both separator rule))

/-- Parts with a separator between each two; there may be none. -/
def separated (separator rule : Rule Part) : Rule Part :=
  optional (separated1 separator rule)

/-- A part that binds with a rank. -/
def bound (rank : Int) (rule : Rule Part) : Rule Part :=
  ranked rank none rule

/-- A part that groups to the left. -/
def leftward (rank : Int) (rule : Rule Part) : Rule Part :=
  ranked rank (some .left) rule

/-- A part that groups to the right. -/
def rightward (rank : Int) (rule : Rule Part) : Rule Part :=
  ranked rank (some .right) rule

/-- A part that is shown as a phrase of another name. -/
def shownAs (name : String) (rule : Rule Part) : Rule Part :=
  labelled ⟨name, true⟩ rule

/-- The parts of a rule, each replaced by the result of an action, from the
first to the last. -/
def mapParts {Other : Type} {m : Type → Type} [Monad m]
    (action : Part → m Other) : Rule Part → m (Rule Other)
  | nothing => return .nothing
  | part found => return .part (← action found)
  | both first second => do
    let first ← first.mapParts action
    return .both first (← second.mapParts action)
  | either first second => do
    let first ← first.mapParts action
    return .either first (← second.mapParts action)
  | repeated rule => return .repeated (← rule.mapParts action)
  | ranked rank side rule => return .ranked rank side (← rule.mapParts action)
  | labelled label rule => return .labelled label (← rule.mapParts action)
  | field name rule => return .field name (← rule.mapParts action)

/-- The ways to read a rule: one rule without a choice in it for each. -/
def readings : Rule Part → List (Rule Part)
  | nothing => [.nothing]
  | part found => [.part found]
  | both first second =>
    first.readings.flatMap fun first =>
      second.readings.map fun second => .both first second
  | either first second => first.readings ++ second.readings
  | repeated rule => [.repeated rule]
  | ranked rank side rule => rule.readings.map (.ranked rank side)
  | labelled label rule => rule.readings.map (.labelled label)
  | field name rule => rule.readings.map (.field name)

/-- Every rule can be read. -/
theorem readings_ne_nil (rule : Rule Part) : rule.readings ≠ [] := by
  induction rule with
  | nothing => simp [readings]
  | part => simp [readings]
  | both first second firstIH secondIH =>
    obtain ⟨head, tail, shape⟩ := List.exists_cons_of_ne_nil firstIH
    intro empty
    simp only [readings, List.flatMap_eq_nil_iff, List.map_eq_nil_iff] at empty
    exact secondIH (empty head (by simp [shape]))
  | either first second firstIH secondIH => simp [readings, firstIH]
  | repeated => simp [readings]
  | ranked _ _ _ ih => simpa [readings] using ih
  | labelled _ _ ih => simpa [readings] using ih
  | field _ _ ih => simpa [readings] using ih

end Rule

/-- A grammar: its rules in order, and what else is needed to read a text
with them.  A rule whose name begins with a low line leaves no phrase of its
own. -/
structure Grammar where
  /-- The rules; the first is the one for a whole file. -/
  rules : List (String × Writing)
  /-- The phrases that may stand between any two lexemes. -/
  extras : List String
  /-- The lexemes that are found by special scanning, in order. -/
  scanned : List String
  /-- The rules that are put in the place where they are named. -/
  inlined : List String
  /-- The lexeme that words are made of. -/
  wordName : String

end CrateShelf.Source
