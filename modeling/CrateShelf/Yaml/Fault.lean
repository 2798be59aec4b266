import CrateShelf.Text.Number

/-!
# Faults of a YAML text

Most faults are of the form of a text, and of these nothing more is told.
The others are about what a text would stand for: a number, a character or a
time that there is not.
-/

namespace CrateShelf.Yaml

/-- Why there is no such time. -/
inductive TimeFault where
  | year (number : Nat)
  | month
  | day
  | hour
  | minute
  | second
  /-- The distance from world time, in seconds, is a day or more. -/
  | offset (seconds : Int)
deriving DecidableEq, Repr

namespace TimeFault

/-- A stretch of time as it is shown: its days, rounded down, and the seconds
that are left. -/
def shownStretch (seconds : Int) : String :=
  let days := Int.fdiv seconds 86400
  let rest := Int.fmod seconds 86400
  let dayText := if days = 0 then [] else [s!"days={days}"]
  let restText := if rest = 0 then [] else [s!"seconds={rest}"]
  "datetime.timedelta(" ++ ", ".intercalate (dayText ++ restText) ++ ")"

/-- The wording of a fault. -/
def message : TimeFault → String
  | year number => s!"year {number} is out of range"
  | month => "month must be in 1..12"
  | day => "day is out of range for month"
  | hour => "hour must be in 0..23"
  | minute => "minute must be in 0..59"
  | second => "second must be in 0..59"
  | offset seconds =>
    "offset must be a timedelta strictly between " ++
      "-timedelta(hours=24) and timedelta(hours=24), not " ++
      shownStretch seconds ++ "."

end TimeFault

/-- Why a text cannot be read. -/
inductive Fault where
  /-- The text has not the form of a document. -/
  | malformed
  | number (error : NumberError)
  | time (fault : TimeFault)
  /-- A code beyond the last character. -/
  | noChar
  /-- A code beyond what a code can be. -/
  | noCode
  /-- A number without any character. -/
  | noDigits
  /-- A word that is no truth value. -/
  | noWord
  /-- A text that does not look like a time. -/
  | noTime
  /-- Lists and tables are nested too deeply. -/
  | tooDeep
deriving DecidableEq, Repr

namespace Fault

/-- The wording of a fault, for those that have one. -/
def message? : Fault → Option String
  | number error => some error.message
  | time fault => some fault.message
  | noChar => some "chr() arg not in range(0x110000)"
  | malformed | noCode | noDigits | noWord | noTime | tooDeep => none

end Fault

/-- What is read from a text, or why it cannot be read. -/
abbrev Try := Except Fault

/-- The text has not the form that it should have. -/
def refuse {α : Type} : Try α := .error .malformed

/-- What is there, or a fault of form. -/
def demand {α : Type} : Option α → Try α
  | some found => .ok found
  | none => refuse

end CrateShelf.Yaml
