/-! Times of day as clocks show them. -/

namespace EventText

/-- Hour, minute, second and nanosecond. In a leap second the nanoseconds go on past a milliard. -/
structure TimeOfDay where
  hour : Nat
  minute : Nat
  second : Nat := 0
  nanosecond : Nat := 0
deriving DecidableEq

def TimeOfDay.minutes (time : TimeOfDay) : Nat :=
  time.hour * 60 + time.minute

end EventText
