/-!
The proleptic Gregorian calendar: dates and the number of days since the first of January 1970.
-/

namespace EventText

def isLeapYear (year : Int) : Bool :=
  year % 4 == 0 && (year % 100 != 0 || year % 400 == 0)

def monthLengths (year : Int) : List Nat :=
  [31, if isLeapYear year then 29 else 28, 31, 30, 31, 30, 31, 31, 30, 31, 30, 31]

/-- The days from the first of January of the year zero to that of `year`. -/
def daysBeforeYear (year : Int) : Int :=
  365 * year + (year + 3) / 4 - (year + 99) / 100 + (year + 399) / 400

def daysBeforeMonth (year : Int) (month : Nat) : Nat :=
  ((monthLengths year).take (month - 1)).foldr (· + ·) 0

/-- A date; months and days count from one. -/
structure Date where
  year : Int
  month : Nat
  day : Nat
deriving DecidableEq

namespace Date

/-- The first and the last year of the clock. -/
def firstYear : Int := -262143
@[inherit_doc firstYear]
def lastYear : Int := 262142

/-- The date is in the calendar and within the years of the clock. -/
def isValid (d : Date) : Bool :=
  firstYear ≤ d.year && d.year ≤ lastYear && 1 ≤ d.month && 1 ≤ d.day &&
    match (monthLengths d.year)[d.month - 1]? with
    | some length => d.day ≤ length
    | none => false

/-- The number of days since the first of January 1970. Days past the end of the month run on into
the next. -/
def number (d : Date) : Int :=
  daysBeforeYear d.year - daysBeforeYear 1970 +
    daysBeforeMonth d.year d.month + d.day - 1

/-- The year in which the `n`-th day after the first of January of the year zero lies. The mean
length of years leads to it or to a neighbour. -/
def yearOf (n : Int) : Int :=
  let guess := n * 400 / 146097
  if n < daysBeforeYear guess then guess - 1
  else if daysBeforeYear (guess + 1) ≤ n then guess + 1
  else guess

/-- The month and the day of the month that lie `n` days after the first day of the first of the
months, which have the given lengths. -/
def monthOf (month : Nat) (n : Nat) : List Nat → Nat × Nat
  | [] => (month, n + 1)
  | length :: rest => if n < length then (month, n + 1) else monthOf (month + 1) (n - length) rest

def ofNumber (days : Int) : Date :=
  let n := days + daysBeforeYear 1970
  let year := yearOf n
  let (month, day) := monthOf 1 (n - daysBeforeYear year).toNat (monthLengths year)
  ⟨year, month, day⟩

end Date

end EventText
