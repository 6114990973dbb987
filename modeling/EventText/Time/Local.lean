import EventText.Failure
import EventText.Time.Rfc3339
import EventText.Time.Zone

/-!
Times as users of a zone type them and read them. A time without an offset is one of the local
clock; where the clock shows it twice, the reading with the offset of the time after the change is
meant.
-/

namespace EventText.Zone

def clockAt? (zone : Zone) (t : Instant) : Option OffsetInstant :=
  if isOffset (zone.offsetAt t.second) then some ⟨t, zone.offsetAt t.second⟩ else none

/-- The instant at which the local clock shows the reading. Every instant at which it does must be
within the range of the clock. -/
def instantOf? (zone : Zone) (reading : DateTime) : Option OffsetInstant :=
  match zone.offsetsOf reading with
  | .skipped => none
  | .once offset => instantAt? reading offset
  | .twice first second => do
    let t ← instantAt? reading first
    let _ ← instantAt? reading second
    return t

/-- The instant that a user means, by a reading of the local clock or by a time with an offset. -/
def readTime (zone : Zone) (input : Text) : Except Stop OffsetInstant :=
  match readRfc3339? input.trim with
  | some t =>
    match zone.clockAt? t.instant with
    | some t => .ok t
    | none => .error .brokenOff
  | none =>
    match readLocal? input.trim with
    | some reading =>
      match zone.instantOf? reading with
      | some t => .ok t
      | none => .error (.failed (.user (.skippedTime input.trim)))
    | none => .error (.failed (.user (.unreadableTime input.trim)))

end EventText.Zone
