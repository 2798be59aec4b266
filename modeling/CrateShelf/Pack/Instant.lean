/-!
# Instants

An instant is given by the seconds since the beginning of 1970 and millionths
of a second.  Only instants of the years 1 to 9999 are known; each has a date
and a time of day.
-/

namespace CrateShelf.Pack

/-- An instant. -/
structure Instant where
  seconds : Int
  millionths : Nat := 0
deriving DecidableEq, Repr, Inhabited

/-- A day of the calendar. -/
structure Date where
  year : Nat
  month : Nat
  day : Nat
deriving DecidableEq, Repr

/-- The date so many days after the first of March of the year 0.  A year is
taken to start in March, so that the day that a leap year has more is its
last; the calendar repeats itself after 400 years. -/
def Date.ofDay (number : Nat) : Date :=
  let rest := number % 146097
  let year := (rest - rest / 1460 + rest / 36524 - rest / 146096) / 365
  let inYear := rest - (365 * year + year / 4 - year / 100)
  let month := (5 * inYear + 2) / 153
  let years := number / 146097 * 400 + year
  { year := if month < 10 then years else years + 1
    month := if month < 10 then month + 3 else month - 9
    day := inYear - (153 * month + 2) / 5 + 1 }

namespace Instant

/-- The seconds from the first of March of the year 0 to 1970. -/
def secondsBefore : Int := 719468 * 86400

/-- Whether an instant is in the years 1 to 9999. -/
def isKnown (instant : Instant) : Bool :=
  -62135596800 ≤ instant.seconds && instant.seconds < 253402300800

/-- The seconds of an instant since the first of March of the year 0. -/
def count (instant : Instant) : Nat :=
  (instant.seconds + secondsBefore).toNat

/-- The date of an instant. -/
def date (instant : Instant) : Date := .ofDay (instant.count / 86400)

/-- Hours, minutes and seconds of the day. -/
def timeOfDay (instant : Instant) : Nat × Nat × Nat :=
  let rest := instant.count % 86400
  (rest / 3600, rest / 60 % 60, rest % 60)

/-- An instant as it is shown in messages; parts at the end that are zero are
left out from the seconds on. -/
def shown (instant : Instant) : String :=
  let date := instant.date
  let (hours, minutes, seconds) := instant.timeOfDay
  let usual := [date.year, date.month, date.day, hours, minutes]
  let parts :=
    if instant.millionths ≠ 0 then
      usual ++ [seconds, instant.millionths]
    else if seconds ≠ 0 then usual ++ [seconds]
    else usual
  "datetime.datetime(" ++ ", ".intercalate (parts.map toString) ++
    ", tzinfo=datetime.timezone.utc)"

/-- A number with at least so many digits. -/
def filled (width number : Nat) : String :=
  let digits := Nat.toDigits 10 number
  String.ofList (List.replicate (width - digits.length) '0' ++ digits)

/-- The written form of an instant. -/
def written (instant : Instant) : String :=
  let date := instant.date
  let (hours, minutes, seconds) := instant.timeOfDay
  "-".intercalate [filled 4 date.year, filled 2 date.month,
      filled 2 date.day] ++ " " ++
    ":".intercalate [filled 2 hours, filled 2 minutes, filled 2 seconds] ++
    (if instant.millionths = 0 then ""
      else "." ++ filled 6 instant.millionths) ++ "+00:00"

end Instant

end CrateShelf.Pack
