/-!
# Log entries

What a run tells beside its result: each entry has a level, the part of the
program that speaks, and a text.
-/

namespace CrateShelf

/-- How important a log entry is. -/
inductive LogLevel where
  | debug
  | info
  | warning
  | error
deriving DecidableEq, Repr, Inhabited

namespace LogLevel

/-- The name of a level. -/
def name : LogLevel → String
  | debug => "DEBUG"
  | info => "INFO"
  | warning => "WARNING"
  | error => "ERROR"

/-- The rank of a level, the least important first. -/
def rank : LogLevel → Nat
  | debug => 0
  | info => 1
  | warning => 2
  | error => 3

/-- The least level shown when the user asked so many times for more. -/
def ofVerbosity : Nat → LogLevel
  | 0 => warning
  | 1 => info
  | _ => debug

end LogLevel

/-- One entry of the log. -/
structure LogEntry where
  level : LogLevel
  source : String
  text : String
deriving DecidableEq, Repr, Inhabited

namespace LogEntry

/-- Whether the entry is at least as important as a level. -/
def isShownAt (entry : LogEntry) (least : LogLevel) : Bool :=
  least.rank ≤ entry.level.rank

/-- The line printed for an entry. -/
def toLine (entry : LogEntry) : String :=
  entry.level.name ++ " oxidoc." ++ entry.source ++ ": " ++ entry.text

end LogEntry

end CrateShelf
