import CrateShelf.Source.Charset

/-!
# Lexemes

A lexeme is what the smallest parts of a source file are: a word, a sign, a
literal.  It is given by a pattern, which a text matches or not, and by how
it fares against other lexemes that match the same text.

Main statement: `Pattern.Matches` says which texts a pattern stands for.
-/

namespace CrateShelf.Source

/-- What the text of a lexeme looks like. -/
inductive Pattern where
  /-- No text at all. -/
  | empty
  /-- A given text. -/
  | text (chars : List Char)
  /-- One character of a set. -/
  | chars (set : Charset)
  /-- One pattern after another. -/
  | both (first second : Pattern)
  /-- One of two patterns. -/
  | either (first second : Pattern)
  /-- A pattern once or more often. -/
  | repeated (pattern : Pattern)
deriving DecidableEq, Repr, Inhabited

namespace Pattern

/-- Patterns in a row. -/
def seq : List Pattern → Pattern
  | [] => empty
  | [pattern] => pattern
  | pattern :: rest => both pattern (seq rest)

/-- One of several patterns. -/
def oneOf : List Pattern → Pattern
  | [] => chars []
  | [pattern] => pattern
  | pattern :: rest => either pattern (oneOf rest)

/-- A pattern or nothing. -/
def optional (pattern : Pattern) : Pattern := either pattern empty

/-- A pattern any number of times. -/
def many (pattern : Pattern) : Pattern := either (repeated pattern) empty

/-- A pattern a given number of times. -/
def times (pattern : Pattern) : Nat → Pattern
  | 0 => empty
  | 1 => pattern
  | count + 2 => both pattern (times pattern (count + 1))

/-- The text of a word or sign. -/
def word (text : String) : Pattern := .text text.toList

/-- Which texts a pattern stands for. -/
inductive Matches : Pattern → List Char → Prop where
  | empty : Matches .empty []
  | text (chars : List Char) : Matches (.text chars) chars
  | chars {set : Charset} {char : Char} (member : set.contains char.toNat) :
      Matches (.chars set) [char]
  | both {first second : Pattern} {front back : List Char}
      (here : Matches first front) (there : Matches second back) :
      Matches (.both first second) (front ++ back)
  | left {first second : Pattern} {text : List Char}
      (here : Matches first text) : Matches (.either first second) text
  | right {first second : Pattern} {text : List Char}
      (here : Matches second text) : Matches (.either first second) text
  | once {pattern : Pattern} {text : List Char}
      (here : Matches pattern text) : Matches (.repeated pattern) text
  | again {pattern : Pattern} {front back : List Char}
      (here : Matches pattern front)
      (there : Matches (.repeated pattern) back) :
      Matches (.repeated pattern) (front ++ back)

/-- An optional pattern stands for nothing, too. -/
theorem matches_optional_nil (pattern : Pattern) :
    Matches pattern.optional [] := .right .empty

/-- An optional pattern stands for all that the pattern stands for. -/
theorem Matches.optional {pattern : Pattern} {text : List Char}
    (here : Matches pattern text) : Matches pattern.optional text :=
  .left here

end Pattern

/-- A smallest part of a source file. -/
structure Lexeme where
  pattern : Pattern
  /-- Of two lexemes for the same text, the one with the higher rank is
  meant. -/
  rank : Int := 0
  /-- Whether the lexeme has to follow the one before it without a blank. -/
  isAttached : Bool := false
deriving DecidableEq, Repr, Inhabited

namespace Lexeme

/-- A lexeme that is one given text. -/
def ofText (text : String) : Lexeme := { pattern := .word text }

/-- How much a lexeme is preferred to others of the same rank: given texts
come before patterns, and attached lexemes before others. -/
def preference (lexeme : Lexeme) : Nat :=
  (match lexeme.pattern with
    | .text _ => 2
    | _ => 0) + if lexeme.isAttached then 1 else 0

end Lexeme

end CrateShelf.Source
