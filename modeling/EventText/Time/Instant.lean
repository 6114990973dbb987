import EventText.Time.Calendar
import EventText.Time.TimeOfDay

/-!
Instants, and the date and time of day that a clock shows for them. A clock's reading is a number
of seconds too: the seconds that would have passed since 1970 if the clock showed universal time.
-/

namespace EventText

/-- What a clock with a calendar shows. -/
structure DateTime where
  date : Date
  time : TimeOfDay
deriving DecidableEq

namespace DateTime

/-- The seconds of the reading since the first of January 1970. -/
def second (t : DateTime) : Int :=
  t.date.number * 86400 + (t.time.hour * 3600 + t.time.minute * 60 + t.time.second : Nat)

def ofSecond (second : Int) (nanosecond : Nat) : DateTime :=
  let inDay := (second % 86400).toNat
  ⟨Date.ofNumber (second / 86400),
    ⟨inDay / 3600, inDay / 60 % 60, inDay % 60, nanosecond⟩⟩

end DateTime

namespace Instant

def firstSecond : Int :=
  Date.number ⟨Date.firstYear, 1, 1⟩ * 86400

def lastSecond : Int :=
  Date.number ⟨Date.lastYear, 12, 31⟩ * 86400 + 86399

end Instant

/-- A point in time within the range of the clock: whole seconds since 1970 began in universal time,
and the nanoseconds after. A milliard of nanoseconds and more lie in the leap second that follows. -/
structure Instant where
  second : Int
  nanosecond : Nat
  first_le : Instant.firstSecond ≤ second := by decide
  le_last : second ≤ Instant.lastSecond := by decide
  nanosecond_lt : nanosecond < 2000000000 := by decide
deriving DecidableEq

namespace Instant

def ofSecond? (second : Int) (nanosecond : Nat) : Option Instant :=
  if h : firstSecond ≤ second ∧ second ≤ lastSecond ∧ nanosecond < 2000000000 then
    some ⟨second, nanosecond, h.1, h.2.1, h.2.2⟩
  else
    none

theorem ofSecond?_eq_some_iff {second : Int} {nanosecond : Nat} {t : Instant} :
    ofSecond? second nanosecond = some t ↔ t.second = second ∧ t.nanosecond = nanosecond := by
  unfold ofSecond?
  constructor
  · intro h
    split at h
    · obtain rfl := Option.some.inj h
      exact ⟨rfl, rfl⟩
    · cases h
  · rintro ⟨rfl, rfl⟩
    exact dif_pos ⟨t.first_le, t.le_last, t.nanosecond_lt⟩

theorem ofSecond?_eq_none_iff {second : Int} {nanosecond : Nat} :
    ofSecond? second nanosecond = none ↔
      ¬ (firstSecond ≤ second ∧ second ≤ lastSecond ∧ nanosecond < 2000000000) := by
  unfold ofSecond?
  split <;> simp [*]

/-- The instant at which a clock shows the reading, when it is `offset` seconds ahead of universal
time. -/
def ofReading? (reading : DateTime) (offset : Int) : Option Instant :=
  ofSecond? (reading.second - offset) reading.time.nanosecond

/-- What a clock shows that is `offset` seconds ahead of universal time. -/
def reading (t : Instant) (offset : Int) : DateTime :=
  .ofSecond (t.second + offset) t.nanosecond

def isBefore (a b : Instant) : Bool :=
  a.second < b.second || (a.second == b.second && a.nanosecond < b.nanosecond)

/-- The instant whole minutes later. Once time goes on, a leap second counts as the second that it
follows. `none` beyond the range of the clock. -/
def addMinutes? (t : Instant) (minutes : Nat) : Option Instant :=
  ofSecond? (t.second + minutes * 60)
    (if minutes = 0 then t.nanosecond else t.nanosecond % 1000000000)

end Instant

structure OffsetInstant where
  instant : Instant
  /-- Seconds ahead of universal time. -/
  offset : Int
deriving DecidableEq

def OffsetInstant.reading (t : OffsetInstant) : DateTime :=
  t.instant.reading t.offset

end EventText
