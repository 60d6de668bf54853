import RecordStore.Text.Numeral
/-!
# Civil dates

Dates of the proleptic Gregorian calendar, years counted through zero, and their day
numbers since 1970-01-01. A year is found from a day number by dividing by the mean
length of a year, which is wrong by at most one year, and correcting.

## Main definitions

* `Date.toDays`, `Date.ofDays`: a date as its day number and back.
* `Date.Valid`: the month and the day exist.
* `Date.text`: year, month and day.
-/

namespace RecordStore

/-- Whether a year has a 29th of February. -/
def isLeapYear (year : Int) : Bool :=
  year % 4 == 0 && (year % 100 != 0 || year % 400 == 0)

/-- The lengths of the months of a year, January first. -/
def monthLengths (year : Int) : List Nat :=
  [31, if isLeapYear year then 29 else 28, 31, 30, 31, 30, 31, 31, 30, 31, 30, 31]

/-- The days from 1970-01-01 to the first day of the year. -/
def daysBeforeYear (year : Int) : Int :=
  365 * year + (year - 1) / 4 - (year - 1) / 100 + (year - 1) / 400 - 719527

/-- The year that holds a day, given as days since 1970-01-01. -/
def yearOfDay (day : Int) : Int :=
  let guess := (day + 719528) * 400 / 146097
  if day < daysBeforeYear guess then guess - 1
  else if daysBeforeYear (guess + 1) ≤ day then guess + 1
  else guess

/-- A month and a day of the month, from a count of days since the first of a month and
the lengths of the months that follow; months are counted on from `month`. -/
def monthAndDay (month : Nat) : List Nat → Nat → Nat × Nat
  | [], day => (month, day + 1)
  | length :: rest, day =>
    if day < length then (month, day + 1) else monthAndDay (month + 1) rest (day - length)

/-- A calendar date. -/
structure Date where
  /-- The year, with 0 before 1. -/
  year : Int
  /-- The month, from 1. -/
  month : Nat
  /-- The day of the month, from 1. -/
  day : Nat
deriving DecidableEq, Repr

namespace Date

/-- The number of days of the month, 0 for a month that does not exist. -/
def monthLength (d : Date) : Nat :=
  (monthLengths d.year).getD (d.month - 1) 0

/-- Whether the month and the day exist in the year. -/
def Valid (d : Date) : Prop :=
  1 ≤ d.month ∧ d.month ≤ 12 ∧ 1 ≤ d.day ∧ d.day ≤ d.monthLength

instance (d : Date) : Decidable d.Valid :=
  inferInstanceAs (Decidable (_ ∧ _))

/-- The days from 1970-01-01 to the date. -/
def toDays (d : Date) : Int :=
  let before : Nat := ((monthLengths d.year).take (d.month - 1)).foldl (· + ·) 0
  daysBeforeYear d.year + before + (d.day - 1 : Nat)

/-- The date of a day number. -/
def ofDays (n : Int) : Date :=
  let year := yearOfDay n
  let (month, day) := monthAndDay 1 (monthLengths year) (n - daysBeforeYear year).toNat
  ⟨year, month, day⟩

/-- The date with at least four digits of the year, which has a sign outside 0 to 9999. -/
def text (d : Date) : String :=
  (if d.year < 0 then "-" else if 9999 < d.year then "+" else "") ++
    Numeral.padded 4 d.year.natAbs ++ "-" ++ Numeral.padded 2 d.month ++ "-" ++
    Numeral.padded 2 d.day

end Date

end RecordStore
