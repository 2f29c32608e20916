import NetSession.Text.Decimal

/-!
# Dates and times of day

A moment in universal time, counted in seconds since the start of 1970, as a date of the Gregorian
calendar with a time of day. The calendar repeats every 400 years, which have 146097 days; years are
taken to start in March, so that a leap day ends its year.
-/

namespace NetSession.Calendar

/-- A date with a time of day. -/
structure Moment where
  /-- The year. -/
  year : Int
  /-- The month, from 1 to 12. -/
  month : Nat
  /-- The day of the month, from 1. -/
  day : Nat
  /-- The hour. -/
  hour : Nat
  /-- The minute. -/
  minute : Nat
  /-- The second. -/
  second : Nat
  deriving DecidableEq, Repr

/-- The days from the start of March of year 0 to the start of 1970. -/
def epochDay : Int := 719468

/-- The year, month and day of a day counted from the start of 1970. -/
def dateOfDay (days : Int) : Int × Nat × Nat :=
  let days := days + epochDay
  let era := days.fdiv 146097
  let ofEra := (days.fmod 146097).toNat
  let yearOfEra := (ofEra - ofEra / 1460 + ofEra / 36524 - ofEra / 146096) / 365
  let ofYear := ofEra - (365 * yearOfEra + yearOfEra / 4 - yearOfEra / 100)
  let fromMarch := (5 * ofYear + 2) / 153
  let day := ofYear - (153 * fromMarch + 2) / 5 + 1
  let month := if fromMarch < 10 then fromMarch + 3 else fromMarch - 9
  let year := (yearOfEra : Int) + era * 400 + (if month ≤ 2 then 1 else 0)
  (year, month, day)

/-- The moment that lies a number of seconds after the start of 1970. -/
def ofSeconds (seconds : Int) : Moment :=
  let (year, month, day) := dateOfDay (seconds.fdiv 86400)
  let ofDay := (seconds.fmod 86400).toNat
  ⟨year, month, day, ofDay / 3600, ofDay / 60 % 60, ofDay % 60⟩

/-- The form `2023-11-14 22:13:20`, for years from 0 to 9999. -/
def Moment.render (m : Moment) : List Char :=
  Decimal.padded 4 m.year.toNat ++ '-' :: Decimal.padded 2 m.month ++ '-' :: Decimal.padded 2 m.day
    ++ ' ' :: Decimal.padded 2 m.hour ++ ':' :: Decimal.padded 2 m.minute
    ++ ':' :: Decimal.padded 2 m.second

end NetSession.Calendar
