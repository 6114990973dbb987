import EventText.Time.Reader

/-!
Time zones as POSIX writes them: a standard offset, and perhaps a daylight saving offset with the
two days of the year on which the clocks change.
-/

namespace EventText

inductive YearDay where
  /-- Counted from 1; the 29th of February is not counted. -/
  | withoutLeapDay (day : Nat)
  /-- Counted from 0; the 29th of February is counted. -/
  | withLeapDay (day : Nat)
  /-- The `week`-th of a weekday in a month, where the fifth is the last; Sunday is 0. -/
  | weekday (month week day : Nat)
deriving DecidableEq

/-- The month and the day of the month that lie `n` days into the year. Days beyond December stay
with it. -/
def monthAt (n : Nat) (lengths : List Nat) : Nat × Nat :=
  Date.monthOf 1 n (lengths.take 11)

def YearDay.date (year : Int) : YearDay → Date
  | withoutLeapDay day =>
    let (month, day) := monthAt (day - 1) (monthLengths 1970)
    ⟨year, month, day⟩
  | withLeapDay day =>
    let (month, day) := monthAt day (monthLengths year)
    ⟨year, month, day⟩
  | weekday month week day =>
    let firstWeekday := (4 + Date.number ⟨year, month, 1⟩) % 7
    let first := 1 + ((day - firstWeekday) % 7).toNat
    let wanted := first + (week - 1) * 7
    let length := ((monthLengths year)[month - 1]?).getD 31
    ⟨year, month, if length < wanted then wanted - 7 else wanted⟩

/-- A change of the clocks: a day, and the time on it in seconds of the clock before the change. -/
structure Changeover where
  day : YearDay
  time : Int
deriving DecidableEq

def Changeover.second (c : Changeover) (year : Int) : Int :=
  (c.day.date year).number * 86400 + c.time

/-- A zone; offsets are seconds ahead of universal time. -/
inductive Zone where
  | fixed (offset : Int)
  | alternating (standard daylight : Int) (start finish : Changeover)
deriving DecidableEq

/-- The instants that share a reading of a local clock, by the offsets they are read with. -/
inductive LocalOffset where
  | skipped
  | once (offset : Int)
  | twice (first second : Int)
deriving DecidableEq

namespace Zone

def utc : Zone :=
  fixed 0

/-- Daylight saving is in force at second `t`, given the seconds at which it starts and finishes in
each year, for a `t` in `year`. The neighbouring years count where changes cross their ends. -/
def inDaylight (start finish : Int → Int) (year t : Int) : Bool :=
  if start year ≤ finish year then
    if t < start year then
      t < finish (year - 1) && start (year - 1) ≤ t
    else
      t < finish year || (start (year + 1) ≤ t && t < finish (year + 1))
  else
    if t < finish year then
      !(t < start (year - 1)) || t < finish (year - 1)
    else
      !(t < start year) && (t < finish (year + 1) || start (year + 1) ≤ t)

def offsetAt (second : Int) : Zone → Int
  | fixed offset => offset
  | alternating standard daylight start finish =>
    let year := (Date.ofNumber (second / 86400)).year
    if inDaylight (fun y => start.second y - standard) (fun y => finish.second y - daylight)
        year second then
      daylight
    else
      standard

/-- The offsets with which second `t` of the local clock can be read, when clocks go forward from
`forward` and back from `back` by `jump` seconds; `low` is in force after they went back and `high`
after they went forward. The forward change comes first in the year. -/
def forwardFirst (forward back jump low high t : Int) : LocalOffset :=
  if t ≤ forward then .once low
  else if t < forward + jump then .skipped
  else if t < back - jump then .once high
  else if t ≤ back then .twice low high
  else .once low

/-- As `forwardFirst`, for zones in which clocks go back first in the year. -/
def backFirst (forward back jump low high t : Int) : LocalOffset :=
  if t < back - jump then .once high
  else if t ≤ back then .twice low high
  else if t < forward then .once low
  else if t < forward + jump then .skipped
  else .once high

/-- The offsets with which a reading of the local clock can be read. Only the changes of its own
year are looked at. -/
def offsetsOf (reading : DateTime) : Zone → LocalOffset
  | fixed offset => .once offset
  | alternating standard daylight start finish =>
    let year := reading.date.year
    let t := reading.second
    let startsFirst := (start.day.date year).month < (finish.day.date year).month
    if standard = daylight then
      .once standard
    else if standard < daylight then
      let rule := if startsFirst then forwardFirst else backFirst
      rule (start.second year) (finish.second year) (daylight - standard) standard daylight t
    else
      let rule := if startsFirst then backFirst else forwardFirst
      rule (finish.second year) (start.second year) (standard - daylight) daylight standard t

end Zone

end EventText
