import EventText.Text.Basic
import EventText.Time.Instant

/-! The written forms of dates and times. -/

namespace EventText

/-- A year: four digits, and outside the years 0 to 9999 a sign and at least four. -/
def writeYear (year : Int) : Text :=
  if year < 0 then '-' :: Text.padded 4 year.natAbs
  else if 9999 < year then '+' :: Text.padded 4 year.natAbs
  else Text.padded 4 year.natAbs

def Date.written (d : Date) : Text :=
  writeYear d.year ++ '-' :: Text.padded 2 d.month ++ '-' :: Text.padded 2 d.day

def DateTime.toMinute (t : DateTime) : Text :=
  t.date.written ++ ' ' :: Text.padded 2 t.time.hour ++ ':' :: Text.padded 2 t.time.minute

/-- A fraction of a second in as few groups of three digits as it needs. -/
def writeFraction (nanosecond : Nat) : Text :=
  if nanosecond = 0 then []
  else if nanosecond % 1000000 = 0 then '.' :: Text.padded 3 (nanosecond / 1000000)
  else if nanosecond % 1000 = 0 then '.' :: Text.padded 6 (nanosecond / 1000)
  else '.' :: Text.padded 9 nanosecond

/-- An instant in universal time after RFC 3339. A leap second is written as the sixtieth. -/
def Instant.written (t : Instant) : Text :=
  let shown := t.reading 0
  let extra := t.nanosecond / 1000000000
  shown.date.written ++ 'T' :: Text.padded 2 shown.time.hour ++ ':' ::
    Text.padded 2 shown.time.minute ++ ':' :: Text.padded 2 (shown.time.second + extra) ++
    writeFraction (t.nanosecond % 1000000000) ++ ['Z']

end EventText
