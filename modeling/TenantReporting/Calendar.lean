/-!
# Times

Time is counted in ticks of an eighth of a second from the beginning of the year 2024 and is written
as a date and a time of day.
-/

namespace TenantReporting.Calendar

/-- How many ticks make a second. -/
def ticksPerSecond : Int := 8

/-- How many milliseconds a tick takes. -/
def millisecondsPerTick : Int := 125

/-- The first day of the calendar's count, the beginning of the year 2024, counted from the first of
March of the year zero. -/
def firstDay : Int := 739191

/-- A day of the calendar. -/
structure Date where
  year : Int
  month : Nat
  day : Nat
deriving DecidableEq, Repr

/-- The date of a day counted from the first of March of the year zero. Years are taken to begin in
March, so that a leap day is the last day of its year. -/
def dateOf (days : Int) : Date :=
  let era := days.fdiv 146097
  let dayOfEra := (days.fmod 146097).toNat
  let yearOfEra := (dayOfEra - dayOfEra / 1460 + dayOfEra / 36524 - dayOfEra / 146096) / 365
  let dayOfYear := dayOfEra - (365 * yearOfEra + yearOfEra / 4 - yearOfEra / 100)
  let monthFromMarch := (5 * dayOfYear + 2) / 153
  let month := if monthFromMarch < 10 then monthFromMarch + 3 else monthFromMarch - 9
  { year := era * 400 + yearOfEra + (if month ≤ 2 then 1 else 0)
    month
    day := dayOfYear - (153 * monthFromMarch + 2) / 5 + 1 }

/-- A number with leading zeros up to the given width. -/
def padded (width : Nat) (n : Nat) : String :=
  let digits := Nat.toDigits 10 n
  String.ofList (List.replicate (width - digits.length) '0' ++ digits)

/-- The text of a time. Fractions of a second are written in microseconds, and only if there are
any. -/
def timeText (ticks : Int) : String :=
  let seconds := ticks.fdiv ticksPerSecond
  let microseconds := (ticks.fmod ticksPerSecond).toNat * 125000
  let date := dateOf (firstDay + seconds.fdiv 86400)
  let second := (seconds.fmod 86400).toNat
  let fraction := if microseconds = 0 then "" else "." ++ padded 6 microseconds
  padded 4 date.year.toNat ++ "-" ++ padded 2 date.month ++ "-" ++ padded 2 date.day ++ "T"
    ++ padded 2 (second / 3600) ++ ":" ++ padded 2 (second / 60 % 60) ++ ":"
    ++ padded 2 (second % 60) ++ fraction

end TenantReporting.Calendar
