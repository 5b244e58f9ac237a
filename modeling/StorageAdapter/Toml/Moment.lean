import StorageAdapter.Text.Numeral
import StorageAdapter.Toml.Reader

/-! # Dates and times

A date, a time of day, or both with or without an offset from UTC. Every part has its range: the
days of a month depend on the year, and a minute may have a leap second. -/

namespace StorageAdapter.Toml.Moment

open Reader

/-- A number of exactly `width` digits between two bounds. -/
def number (width low high : Nat) : Reader Nat := fun cs => do
  let n ← Text.digits 10 (cs.take width)
  if (cs.take width).length = width ∧ low ≤ n ∧ n ≤ high then some (n, cs.drop width) else none

/-- Whether a year has a leap day. -/
def isLeap (year : Nat) : Bool := year % 4 == 0 && (year % 100 != 0 || year % 400 == 0)

/-- The number of days of a month. -/
def daysIn (year month : Nat) : Nat :=
  if month = 2 then if isLeap year then 29 else 28
  else if month = 4 ∨ month = 6 ∨ month = 9 ∨ month = 11 then 30
  else 31

def date : Reader Unit := do
  let year ← number 4 0 9999
  char '-'
  let month ← number 2 1 12
  char '-'
  let _ ← number 2 1 (daysIn year month)

def secondFraction : Reader Unit := do
  char '.'
  let _ ← run1 Char.isDigit

/-- A time of day. -/
def time : Reader Unit := do
  let _ ← number 2 0 23
  char ':'
  let _ ← number 2 0 59
  char ':'
  let _ ← number 2 0 60
  let _ ← optional secondFraction

/-- An offset in hours and minutes. -/
def hourOffset : Reader Unit := do
  let _ ← one fun c => c == '+' || c == '-'
  let _ ← number 2 0 23
  char ':'
  let _ ← number 2 0 59

/-- An offset from UTC. -/
def offset : Reader Unit := char 'Z' <|> char 'z' <|> hourOffset

/-- A time of day behind a date. -/
def timeOfDate : Reader Unit := do
  let _ ← one fun c => c == 'T' || c == 't' || c == ' '
  time
  let _ ← optional offset

/-- A date with or without a time. -/
def dateAndTime : Reader Unit := do
  date
  let _ ← optional timeOfDate

/-- A date, a time or both. -/
def read : Reader Unit := dateAndTime <|> time

end StorageAdapter.Toml.Moment
