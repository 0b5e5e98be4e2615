import Salutation.Text.Basic

/-!
# The time of a log line

Time is counted in microseconds from the beginning of 1970, without leap seconds, and written as a
date and a time of day in the zone zero.  A date is found by counting years from March, so that the
leap day is the last day of its year: four hundred such years always have 146097 days.
-/

namespace Salutation.Clock

/-- A day of the calendar. -/
structure Date where
  year : Nat
  month : Nat
  day : Nat
  deriving Repr, DecidableEq

/-- The days from the first of March of the year zero to the beginning of 1970. -/
def daysBefore1970 : Nat := 719468

/-- The days of four hundred years. -/
def daysOfFourCenturies : Nat := 146097

/-- The date so many days after the beginning of 1970. -/
def Date.ofDays (days : Nat) : Date :=
  let fourCenturies := (days + daysBefore1970) / daysOfFourCenturies
  let rest := (days + daysBefore1970) % daysOfFourCenturies
  let year := (rest - rest / 1460 + rest / 36524 - rest / 146096) / 365
  let dayOfYear := rest - (365 * year + year / 4 - year / 100)
  -- months from March have 153 days in every five
  let month := (5 * dayOfYear + 2) / 153
  let day := dayOfYear - (153 * month + 2) / 5 + 1
  let startedInYear := 400 * fourCenturies + year
  if month < 10 then ⟨startedInYear, month + 3, day⟩ else ⟨startedInYear + 1, month - 9, day⟩

/-- A number with at least so many digits. -/
def padded (width n : Nat) : Text :=
  let digits := Nat.toDigits 10 n
  List.replicate (width - digits.length) '0' ++ digits

/-- **The time as a log line gives it.** -/
def text (microseconds : Nat) : Text :=
  let seconds := microseconds / 1000000
  let date := Date.ofDays (seconds / 86400)
  padded 4 date.year ++ ['-'] ++ padded 2 date.month ++ ['-'] ++ padded 2 date.day ++ ['T']
    ++ padded 2 (seconds / 3600 % 24) ++ [':'] ++ padded 2 (seconds / 60 % 60) ++ [':']
    ++ padded 2 (seconds % 60) ++ ['.'] ++ padded 6 (microseconds % 1000000) ++ ['Z']

end Salutation.Clock
