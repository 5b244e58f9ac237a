/-! # Calendar

Dates of the proleptic Gregorian calendar and times of day in UTC, from a count of seconds since
the beginning of 1970. The days are counted from 1 March of the year 0, so that a leap day is the
last of its year, and in cycles of 400 years. -/

namespace StorageAdapter

/-- A date and a time of day. -/
structure DateTime where
  year : Int
  month : Nat
  day : Nat
  hour : Nat
  minute : Nat
  second : Nat
deriving DecidableEq, Repr

namespace DateTime

/-- The days of 400 years. -/
def cycleDays : Nat := 146097

/-- The days from 1 March of the year 0 to the beginning of 1970. -/
def epochDay : Int := 719468

/-- The year within a cycle, beginning in March, that day `d` of the cycle lies in. -/
def yearOfCycle (d : Nat) : Nat := (d - d / 1460 + d / 36524 - d / 146096) / 365

/-- The first day of a year of the cycle. -/
def firstDayOfYear (y : Nat) : Nat := 365 * y + y / 4 - y / 100

/-- The month, counted from March, that day `d` of such a year lies in. -/
def monthOfYear (d : Nat) : Nat := (5 * d + 2) / 153

/-- The first day of a month counted from March. -/
def firstDayOfMonth (m : Nat) : Nat := (153 * m + 2) / 5

/-- Year, month and day of a day counted from the beginning of 1970. -/
def dateOfDay (day : Int) : Int × Nat × Nat :=
  let d := day + epochDay
  let cycle := d / cycleDays
  let inCycle := (d % cycleDays).toNat
  let y := yearOfCycle inCycle
  let inYear := inCycle - firstDayOfYear y
  let m := monthOfYear inYear
  let month := if m < 10 then m + 3 else m - 9
  (y + cycle * 400 + (if month ≤ 2 then 1 else 0), month, inYear - firstDayOfMonth m + 1)

/-- The date and time of a number of seconds since the beginning of 1970. -/
def ofSecondsUnbounded (seconds : Int) : DateTime :=
  let (year, month, day) := dateOfDay (seconds / 86400)
  let inDay := (seconds % 86400).toNat
  ⟨year, month, day, inDay / 3600, inDay / 60 % 60, inDay % 60⟩

/-- The first year that can be told. -/
def firstYear : Int := -262143

/-- The last year that can be told. -/
def lastYear : Int := 262142

/-- The beginning of 1970. -/
def epoch : DateTime := ⟨1970, 1, 1, 0, 0, 0⟩

/-- The date and time of a number of seconds since the beginning of 1970. Seconds beyond the years
that can be told read as the beginning of 1970. -/
def ofSeconds (seconds : Int) : DateTime :=
  let t := ofSecondsUnbounded seconds
  if firstYear ≤ t.year ∧ t.year ≤ lastYear then t else epoch

end DateTime

end StorageAdapter
