import CrateShelf.Terminal.Styled
import CrateShelf.Text.Lines

/-!
# Shades of source code

Highlighted code is a sequence of tokens, each in a shade.  A token is painted
line by line, so that every line of the result can be shown alone.

Main statement: painting only adds style codes; the characters of the tokens
stay as they are.
-/

namespace CrateShelf.Highlight

/-- What a token is shown as. -/
inductive Shade where
  | plain
  | keyword
  | operator
  | number
  | string
  | comment
  | name
  | invalid
deriving DecidableEq, Repr

/-- The parameters of the code that turns a shade on. -/
def Shade.on : Shade → String
  | .plain => "38;5;255"
  | .keyword => "38;5;81"
  | .operator => "38;5;204"
  | .number => "38;5;141"
  | .string => "38;5;186"
  | .comment => "38;5;245"
  | .name => "38;5;148"
  | .invalid => "38;5;198;48;5;233"

/-- The parameters of the code that turns a shade off. -/
def Shade.off : Shade → String
  | .invalid => "39;49"
  | _ => "39"

/-- A stretch of source text in one shade. -/
structure Token where
  shade : Shade
  text : List Char
deriving DecidableEq, Repr

namespace Token

/-- A stretch of one line in a shade; nothing is written for no characters. -/
def paintLine (shade : Shade) (line : List Char) : List Char :=
  if line.isEmpty then []
  else
    Terminal.styleCode shade.on ++ line ++ Terminal.styleCode shade.off

/-- A token in its shade. -/
def paint (token : Token) : List Char :=
  Text.unlines ((Text.lines token.text).map (paintLine token.shade))

end Token

/-- Tokens in their shades. -/
def paintAll (tokens : List Token) : List Char :=
  tokens.flatMap Token.paint

end CrateShelf.Highlight
