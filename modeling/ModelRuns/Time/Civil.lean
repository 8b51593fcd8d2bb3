import ModelRuns.Time.Instant

namespace ModelRuns

/-!
# Calendar dates

Instants are shown in UTC in the Gregorian calendar, carried on before its
introduction.  Days are counted from the first of March of the year zero, so
that the leap day is the last of its year; four centuries have 146097 days.
-/

/-- A date and a time of the day. -/
structure Civil where
  year : Int
  month : Nat
  day : Nat
  hour : Nat
  minute : Nat
  second : Nat
  weekday : Nat
deriving DecidableEq, Repr

/-- The year, month and day of a count of days since the start of 1970. -/
def dateOfDays (days : Int) : Int × Nat × Nat :=
  let shifted := days + 719468
  let era := shifted.fdiv 146097
  let dayOfEra := (shifted.fmod 146097).toNat
  let yearOfEra :=
    (dayOfEra - dayOfEra / 1460 + dayOfEra / 36524 - dayOfEra / 146096) / 365
  let dayOfYear := dayOfEra - (365 * yearOfEra + yearOfEra / 4 - yearOfEra / 100)
  let marchMonth := (5 * dayOfYear + 2) / 153
  let day := dayOfYear - (153 * marchMonth + 2) / 5 + 1
  let month := if marchMonth < 10 then marchMonth + 3 else marchMonth - 9
  let year := (yearOfEra : Int) + era * 400 + (if month ≤ 2 then 1 else 0)
  (year, month, day)

/-- The date and time of an instant. -/
def Instant.civil (instant : Instant) : Civil :=
  let days := instant.seconds.fdiv 86400
  let rest := (instant.seconds.fmod 86400).toNat
  let (year, month, day) := dateOfDays days
  { year, month, day
    hour := rest / 3600
    minute := rest / 60 % 60
    second := rest % 60
    -- The first day of 1970 was a Thursday; weeks are counted from Monday.
    weekday := ((days + 3).fmod 7).toNat }

/-- The short names of the days of the week, from Monday. -/
def weekdayNames : List String := ["Mon", "Tue", "Wed", "Thu", "Fri", "Sat", "Sun"]

/-- The short names of the months. -/
def monthNames : List String :=
  ["Jan", "Feb", "Mar", "Apr", "May", "Jun", "Jul", "Aug", "Sep", "Oct", "Nov", "Dec"]

/-- A number with zeros in front up to a width. -/
def padNumber (width value : Nat) : String :=
  let digits := Nat.toDigits 10 value
  String.ofList (List.replicate (width - digits.length) '0' ++ digits)

namespace Civil

variable (civil : Civil)

/-- A year of at least four digits, with a minus sign before the year zero. -/
def yearText : String :=
  (if civil.year < 0 then "-" else "") ++ padNumber 4 civil.year.natAbs

/-- The date and time in order of size, for progress lines. -/
def stamp : String :=
  civil.yearText ++ "-" ++ padNumber 2 civil.month ++ "-" ++ padNumber 2 civil.day ++ " " ++
    padNumber 2 civil.hour ++ ":" ++ padNumber 2 civil.minute ++ ":" ++ padNumber 2 civil.second

/-- The date and time as a short name without blanks, for directories. -/
def shortName : String :=
  weekdayNames.getD civil.weekday "" ++ monthNames.getD (civil.month - 1) "" ++
    padNumber 2 civil.day ++ padNumber 2 (civil.year.natAbs % 100) ++ "_" ++
    padNumber 2 civil.hour ++ padNumber 2 civil.minute ++ padNumber 2 civil.second

end Civil

end ModelRuns
