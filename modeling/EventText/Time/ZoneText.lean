import EventText.Time.Zone

/-!
Reading a zone in POSIX notation: `CET-1CEST,M3.5.0,M10.5.0/3`. Offsets are written with the sign
turned round, as what has to be added to local time. A zone with daylight saving must say when the
clocks change.
-/

namespace EventText

def readName? : Text → Option (Text × Text)
  | '<' :: rest =>
    match rest.dropWhile (· != '>') with
    | [] => none
    | _ :: after => some (rest.takeWhile (· != '>'), after)
  | text => some (text.takeWhile Char.isAlpha, text.dropWhile Char.isAlpha)

/-- Names have three to seven letters, digits and signs. -/
def isZoneName (name : Text) : Bool :=
  3 ≤ name.length && name.length ≤ 7 && name.all fun c => c.isAlphanum || c == '+' || c == '-'

def dropName? (text : Text) : Option Text :=
  match readName? text with
  | some (name, rest) => if isZoneName name then some rest else none
  | none => none

def readWhole? (text : Text) : Option (Nat × Text) :=
  readNumber? text.length text

/-- A further part of a time behind a colon; zero when there is none. -/
def readPart? : Text → Option (Nat × Text)
  | ':' :: rest => readWhole? rest
  | text => some (0, text)

/-- Hours, and perhaps minutes and seconds, in seconds. There are up to twenty-four hours. -/
def readClock? (text : Text) : Option (Nat × Text) := do
  let (hours, rest) ← (readWhole? text).bind (within? 0 24)
  match rest with
  | ':' :: _ =>
    let (minutes, rest) ← (readPart? rest).bind (within? 0 59)
    let (seconds, rest) ← (readPart? rest).bind (within? 0 59)
    return (hours * 3600 + minutes * 60 + seconds, rest)
  | _ => return (hours * 3600, rest)

/-- A clock time with a sign, as seconds that local time is ahead of universal time. -/
def readWestward? : Text → Option (Int × Text)
  | '-' :: rest => (readClock? rest).map fun (n, rest) => ((n : Int), rest)
  | '+' :: rest => (readClock? rest).map fun (n, rest) => (-(n : Int), rest)
  | text => (readClock? text).map fun (n, rest) => (-(n : Int), rest)

def readYearDay? : Text → Option (YearDay × Text)
  | 'M' :: rest => do
    let (month, rest) ← (readWhole? rest).bind (within? 1 12)
    let rest ← dropChar? '.' rest
    let (week, rest) ← (readWhole? rest).bind (within? 1 5)
    let rest ← dropChar? '.' rest
    let (day, rest) ← (readWhole? rest).bind (within? 0 6)
    return (.weekday month week day, rest)
  | 'J' :: rest => do
    let (day, rest) ← (readWhole? rest).bind (within? 1 365)
    return (.withoutLeapDay day, rest)
  | text => do
    let (day, rest) ← (readWhole? text).bind (within? 0 365)
    return (.withLeapDay day, rest)

/-- A change of the clocks: a comma, a day, and perhaps a time, else two in the morning. -/
def readChangeover? (text : Text) : Option (Changeover × Text) := do
  let rest ← dropChar? ',' text
  let (day, rest) ← readYearDay? rest
  match rest with
  | '/' :: rest =>
    let (time, rest) ← readClock? rest
    return (⟨day, time⟩, rest)
  | _ => return (⟨day, 7200⟩, rest)

/-- The daylight saving offset, an hour ahead of the standard one when none is written. -/
def readDaylight? (standard : Int) : Text → Option (Int × Text)
  | [] => none
  | ',' :: rest => some (standard + 3600, ',' :: rest)
  | text => readWestward? text

def isAsciiBlank (c : Char) : Bool :=
  c == ' ' || c == '\t' || c == '\n' || c == '\r' || c == '\x0c'

def Zone.ofText? (text : Text) : Option Zone := do
  let text := ((text.dropWhile isAsciiBlank).reverse.dropWhile isAsciiBlank).reverse
  let rest ← dropName? text
  let (standard, rest) ← readWestward? rest
  if rest.isEmpty then
    return .fixed standard
  let rest ← dropName? rest
  let (daylight, rest) ← readDaylight? standard rest
  let (start, rest) ← readChangeover? rest
  let (finish, rest) ← readChangeover? rest
  guard rest.isEmpty
  return .alternating standard daylight start finish

end EventText
