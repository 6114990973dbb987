import EventText.Text.Basic
import EventText.Time.Instant

/-!
Readers for the parts of dates and times. Each takes a part from the front of a text and gives its
value with the rest.
-/

namespace EventText

def dropChar? (c : Char) : Text → Option Text
  | [] => none
  | d :: rest => if d = c then some rest else none

def digitsValue (digits : Text) : Nat :=
  digits.foldl (fun n c => n * 10 + (c.toNat - '0'.toNat)) 0

/-- A number of at least one and at most `most` digits. -/
def readNumber? (most : Nat) (text : Text) : Option (Nat × Text) :=
  let digits := (text.take most).takeWhile Char.isDigit
  if digits.isEmpty then none
  else some (digitsValue digits, text.drop digits.length)

def readDigits? (count : Nat) (text : Text) : Option (Nat × Text) :=
  let digits := (text.take count).takeWhile Char.isDigit
  if digits.length = count then some (digitsValue digits, text.drop count) else none

def within? (least most : Nat) : Nat × Text → Option (Nat × Text)
  | (n, rest) => if least ≤ n && n ≤ most then some (n, rest) else none

/-- The digits behind the point of a fraction as nanoseconds. There is at least one, and those
after the ninth do not count. -/
def readNanoseconds? (text : Text) : Option (Nat × Text) :=
  let digits := text.takeWhile Char.isDigit
  if digits.isEmpty then none
  else
    some (digitsValue ((digits ++ List.replicate 9 '0').take 9), text.dropWhile Char.isDigit)

/-- A fraction, if there is one; nothing else can follow a point. -/
def readFraction? : Text → Option (Nat × Text)
  | '.' :: rest => readNanoseconds? rest
  | text => some (0, text)

/-- An offset from universal time in seconds: a sign, two digits of hours, a separator that
`separator` takes, two digits of minutes. The sign may be a true minus sign. The letter Z is zero. -/
def readOffset? (separator : Text → Option Text) : Text → Option (Int × Text)
  | [] => none
  | c :: rest =>
    if c = 'Z' || c = 'z' then
      some (0, rest)
    else if c = '+' || c = '-' || c = '−' then do
      let (hours, rest) ← readDigits? 2 rest
      let rest ← separator rest
      let (minutes, rest) ← (readDigits? 2 rest).bind (within? 0 59)
      let seconds : Int := hours * 3600 + minutes * 60
      return (if c = '+' then seconds else -seconds, rest)
    else
      none

/-- Offsets stay below a day. -/
def isOffset (offset : Int) : Bool :=
  -86400 < offset && offset < 86400

/-- The reading of a date and the fields of a time. The sixtieth second is the leap second after the
fifty-ninth. -/
def readingOf? (date : Date) (hour minute second nanosecond : Nat) : Option DateTime :=
  if date.isValid then
    some ⟨date, if second = 60 then ⟨hour, minute, 59, nanosecond + 1000000000⟩
      else ⟨hour, minute, second, nanosecond⟩⟩
  else
    none

def instantAt? (reading : DateTime) (offset : Int) : Option OffsetInstant :=
  if isOffset offset then
    (Instant.ofReading? reading offset).map (⟨·, offset⟩)
  else
    none

end EventText
