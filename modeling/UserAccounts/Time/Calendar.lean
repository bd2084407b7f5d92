/-
# The calendar

Dates of the proleptic Gregorian calendar, which has a year zero and negative
years before it. `Date.toDay` counts the days from 1970-01-01 to a date;
`Date.ofDay` finds the date of a day. A cycle of 400 years has 146097 days: three
centuries of 36524 days and a longer one, and within them groups of four years
and single years in the same manner.

Key definitions: `Date`, `Date.toDay`, `Date.ofDay`, `isLeap`.
-/

namespace UserAccounts.Time

structure Date where
  year : Int
  month : Nat
  day : Nat
deriving DecidableEq, Repr

/-- Whether a year has a 29th of February. -/
def isLeap (year : Int) : Bool :=
  year % 4 == 0 && (year % 100 != 0 || year % 400 == 0)

def monthLengths (leap : Bool) : List Nat :=
  [31, if leap then 29 else 28, 31, 30, 31, 30, 31, 31, 30, 31, 30, 31]

/-- The number of days from the first day of the year 1 to the first day of a year. -/
def daysBeforeYear (year : Int) : Int :=
  365 * (year - 1) + (year - 1) / 4 - (year - 1) / 100 + (year - 1) / 400

def epochDay : Int := 719162

/-- The number of days from 1970-01-01 to a date. -/
def Date.toDay (d : Date) : Int :=
  let months := (monthLengths (isLeap d.year)).take (d.month - 1)
  daysBeforeYear d.year + (months.foldr (· + ·) 0 : Nat) + (d.day - 1 : Int) - epochDay

/-- The month, counted from `month` on, and the day of it, of a number of days from its first day
on. -/
def monthAndDay : List Nat → Nat → Nat → Nat × Nat
  | [], month, days => (month, days + 1)
  | [_], month, days => (month, days + 1)
  | length :: lengths, month, days =>
    if days < length then (month, days + 1) else monthAndDay lengths (month + 1) (days - length)

def Date.ofDay (n : Int) : Date :=
  let fromYearOne := n + epochDay
  let inCycle := (fromYearOne % 146097).toNat
  let century := min 3 (inCycle / 36524)
  let inCentury := inCycle - 36524 * century
  let group := inCentury / 1461
  let inGroup := inCentury % 1461
  let single := min 3 (inGroup / 365)
  let inYear := inGroup - 365 * single
  let year := 400 * (fromYearOne / 146097) + (100 * century + 4 * group + single + 1 : Nat)
  let (month, day) := monthAndDay (monthLengths (isLeap year)) 1 inYear
  ⟨year, month, day⟩

end UserAccounts.Time
