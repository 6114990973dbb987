import EventText.Time.Reader

/-!
Reading times after RFC 3339, in two degrees of strictness. The strict form has fields of fixed
width and an offset with a colon. The lenient form takes blanks between its parts, short fields and
years with a sign.
-/

namespace EventText

def dropSeparator? : Text → Option Text
  | [] => none
  | c :: rest => if c = 'T' || c = 't' || c = ' ' then some rest else none

/-- The strict form: `2026-10-17T19:00:00.5+02:00`. -/
def readRfc3339? (text : Text) : Option OffsetInstant := do
  let (year, rest) ← readDigits? 4 text
  let rest ← dropChar? '-' rest
  let (month, rest) ← readDigits? 2 rest
  let rest ← dropChar? '-' rest
  let (day, rest) ← readDigits? 2 rest
  let rest ← dropSeparator? rest
  let (hour, rest) ← (readDigits? 2 rest).bind (within? 0 23)
  let rest ← dropChar? ':' rest
  let (minute, rest) ← (readDigits? 2 rest).bind (within? 0 59)
  let rest ← dropChar? ':' rest
  let (second, rest) ← (readDigits? 2 rest).bind (within? 0 60)
  let (nanosecond, rest) ← readFraction? rest
  let (offset, rest) ← readOffset? (dropChar? ':') rest
  guard rest.isEmpty
  let reading ← readingOf? ⟨year, month, day⟩ hour minute second nanosecond
  instantAt? reading offset

def readField? (most : Nat) (text : Text) : Option (Nat × Text) :=
  readNumber? most text.trimStart

/-- A year behind blanks: up to four digits, or a sign and any number of digits. -/
def readYear? (text : Text) : Option (Int × Text) :=
  match text.trimStart with
  | '-' :: rest => (readNumber? rest.length rest).map fun (n, rest) => (-n, rest)
  | '+' :: rest => (readNumber? rest.length rest).map fun (n, rest) => (n, rest)
  | rest => (readNumber? 4 rest).map fun (n, rest) => (n, rest)

def dropMark? (c : Char) (text : Text) : Option Text :=
  dropChar? c text.trimStart

/-- The offset of the lenient form, in which universal time may also be called by name. -/
def readLooseOffset? (text : Text) : Option (Int × Text) :=
  if (Text.sameAscii (text.take 3) "UTC".toList) then
    some (0, text.drop 3)
  else
    readOffset? (fun rest => some (rest.dropWhile fun c => c == ':' || isBlank c)) text

def readLooseRfc3339? (text : Text) : Option OffsetInstant := do
  let (year, rest) ← readYear? text
  let rest ← dropMark? '-' rest
  let (month, rest) ← readField? 2 rest
  let rest ← dropMark? '-' rest
  let (day, rest) ← readField? 2 rest
  let rest ← dropSeparator? rest
  let (hour, rest) ← (readField? 2 rest).bind (within? 0 23)
  let rest ← dropMark? ':' rest
  let (minute, rest) ← (readField? 2 rest).bind (within? 0 59)
  let rest ← dropMark? ':' rest
  let (second, rest) ← (readField? 2 rest).bind (within? 0 60)
  let (nanosecond, rest) ← readFraction? rest
  let (offset, rest) ← readLooseOffset? rest.trimStart
  guard rest.trimStart.isEmpty
  let reading ← readingOf? ⟨year, month, day⟩ hour minute second nanosecond
  instantAt? reading offset

/-- A date and a time to the minute without an offset, after what stands between the two. -/
def readMinute? (between : Text → Option Text) (text : Text) : Option DateTime := do
  let (year, rest) ← readYear? text
  let rest ← dropChar? '-' rest
  let (month, rest) ← readField? 2 rest
  let rest ← dropChar? '-' rest
  let (day, rest) ← readField? 2 rest
  let rest ← between rest
  let (hour, rest) ← (readField? 2 rest).bind (within? 0 23)
  let rest ← dropChar? ':' rest
  let (minute, rest) ← (readField? 2 rest).bind (within? 0 59)
  guard rest.isEmpty
  readingOf? ⟨year, month, day⟩ hour minute 0 0

/-- A reading of a local clock: date and time with blanks or nothing between them, or with a `T`. -/
def readLocal? (text : Text) : Option DateTime :=
  (readMinute? (fun rest => some rest.trimStart) text).or (readMinute? (dropChar? 'T') text)

end EventText
