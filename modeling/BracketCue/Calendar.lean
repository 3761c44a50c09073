import BracketCue.Text.Numeral

/-!
# Calendar

Dates and times of the Gregorian calendar in UTC, extended to all years, from the seconds since
the start of 1970.

The calendar repeats every 400 years. Inside such a cycle, with years that begin in March so that
a leap day comes last, the day is cut into centuries, then into groups of four years, then into
years, then into months; of each four parts the last may be a day longer.
-/
namespace BracketCue.Calendar

structure DateTime where
  year : Int
  month : Nat
  day : Nat
  hour : Nat
  minute : Nat
  second : Nat
  millisecond : Nat
  deriving DecidableEq, Repr

/-- The days of a 400-year cycle. -/
def daysPerCycle : Nat := 146097

/-- The days from the first of March of the year 0 to the first of January 1970. -/
def daysToEpoch : Nat := 719468

/-- The year and the day within it of a day of a cycle, years beginning in March. -/
def yearOfCycle (day : Nat) : Nat × Nat :=
  let century := min (day / 36524) 3
  let day := day - century * 36524
  let group := day / 1461
  let day := day % 1461
  let year := min (day / 365) 3
  (century * 100 + group * 4 + year, day - year * 365)

/-- The month and the day of the month, both counted from zero, of a day of a year that begins in
March: of five months from March or August on, the lengths are 31, 30, 31, 30, 31. -/
def monthOfYear (day : Nat) : Nat × Nat :=
  let month := (5 * day + 2) / 153
  (month, day - (153 * month + 2) / 5)

/-- The year, the month and the day of a day counted from the first of March of the year 0. -/
def dateOfDay (day : Int) : Int × Nat × Nat :=
  let cycle := day / daysPerCycle
  let (year, dayOfYear) := yearOfCycle (day % daysPerCycle).toNat
  let (month, dayOfMonth) := monthOfYear dayOfYear
  let marchYear := cycle * 400 + year
  if month < 10 then (marchYear, month + 3, dayOfMonth + 1)
  else (marchYear + 1, month - 9, dayOfMonth + 1)

/-- The date and time of a number of seconds since the start of 1970, before it if negative. Mirrors
`from_unix_timestamp`. -/
def DateTime.ofUnix (seconds : Int) : DateTime :=
  let time := (seconds % 86400).toNat
  let (year, month, day) := dateOfDay (seconds / 86400 + daysToEpoch)
  ⟨year, month, day, time / 3600, time / 60 % 60, time % 60, 0⟩

/-- A number in at least `width` digits. -/
def padded (width n : Nat) : Text :=
  Text.zeroPadded width (Text.decimal n)

/-- The date and the time, the year in four characters or more and the milliseconds in three. -/
def DateTime.render (t : DateTime) : Text :=
  Text.signedDecimal 4 t.year ++ '-' :: padded 2 t.month ++ '-' :: padded 2 t.day ++
    ' ' :: padded 2 t.hour ++ ':' :: padded 2 t.minute ++ ':' :: padded 2 t.second ++
    '.' :: padded 3 t.millisecond

end BracketCue.Calendar
