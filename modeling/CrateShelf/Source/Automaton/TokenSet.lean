/-!
# Sets of tokens

A set of small numbers is a number whose binary digits say what is in it.
-/

namespace CrateShelf.Source

/-- A set of tokens. -/
abbrev TokenSet := Nat

namespace TokenSet

/-- The set of one token. -/
def single (token : Nat) : TokenSet := 1 <<< token

/-- Whether a token is in a set. -/
def has (set : TokenSet) (token : Nat) : Bool := Nat.testBit set token

/-- What is in one of two sets. -/
def join (set other : TokenSet) : TokenSet := set ||| other

/-- What is in both of two sets. -/
def meet (set other : TokenSet) : TokenSet := set &&& other

/-- What is in exactly one of two sets. -/
def differ (set other : TokenSet) : TokenSet := Nat.xor set other

/-- What is in the first set and not in the second. -/
def without (set other : TokenSet) : TokenSet := differ set (meet set other)

/-- Whether two sets have something in common. -/
def meets (set other : TokenSet) : Bool := meet set other != 0

/-- The tokens below a bound. -/
def below (count : Nat) : TokenSet := (1 <<< count) - 1

/-- The tokens of a set that are below a bound, in rising order. -/
def members (count : Nat) (set : TokenSet) : List Nat :=
  (List.range count).filter set.has

/-- The set of listed tokens. -/
def ofList (tokens : List Nat) : TokenSet :=
  tokens.foldl (fun set token => join set (single token)) 0

theorem has_single (token other : Nat) :
    has (single token) other = decide (token = other) := by
  simp [has, single, Nat.one_shiftLeft, Nat.testBit_two_pow]

theorem has_join (set other : TokenSet) (token : Nat) :
    has (join set other) token = (has set token || has other token) := by
  simp [has, join]

theorem has_meet (set other : TokenSet) (token : Nat) :
    has (meet set other) token = (has set token && has other token) := by
  simp [has, meet]

end TokenSet

end CrateShelf.Source
