import EventText.Text.Basic

/-!
JSON values. Objects keep their entries in order and keep repeated keys, for the reader of a record
to judge. A string may hold half of a surrogate pair in an escape; then it stands for no text.
-/

namespace EventText

inductive Json where
  | null
  | bool (value : Bool)
  /-- A number as it was written. -/
  | number (written : Text)
  /-- A string; `none` when it stands for no text. -/
  | string (value : Option Text)
  | array (items : List Json)
  | object (entries : List (Option Text × Json))

namespace Json

/-- The code point of a pair of surrogates. -/
def pairCode (high low : Nat) : Nat :=
  0x10000 + (high - 0xD800) * 0x400 + (low - 0xDC00)

/-- The text of a list of code points in which surrogates may stand for a pair. Half of a pair makes
the list stand for no text. -/
def textOfCodes : List Nat → Option Text
  | [] => some []
  | [code] => if 0xD800 ≤ code && code ≤ 0xDFFF then none else some [Char.ofNat code]
  | high :: low :: rest =>
    if 0xD800 ≤ high && high ≤ 0xDBFF then
      if 0xDC00 ≤ low && low ≤ 0xDFFF then
        (textOfCodes rest).map (Char.ofNat (pairCode high low) :: ·)
      else
        none
    else if 0xDC00 ≤ high && high ≤ 0xDFFF then
      none
    else
      (textOfCodes (low :: rest)).map (Char.ofNat high :: ·)

def hexDigit? (c : Char) : Option Nat :=
  if c.isDigit then some (c.toNat - '0'.toNat)
  else if 'a' ≤ c && c ≤ 'f' then some (c.toNat - 'a'.toNat + 10)
  else if 'A' ≤ c && c ≤ 'F' then some (c.toNat - 'A'.toNat + 10)
  else none

def hexValue? (a b c d : Char) : Option Nat := do
  return (((← hexDigit? a) * 16 + (← hexDigit? b)) * 16 + (← hexDigit? c)) * 16 + (← hexDigit? d)

/-- The character that a letter stands for behind a backslash. -/
def escaped? : Char → Option Char
  | '"' => some '"'
  | '\\' => some '\\'
  | '/' => some '/'
  | 'b' => some '\x08'
  | 'f' => some '\x0c'
  | 'n' => some '\n'
  | 'r' => some '\r'
  | 't' => some '\t'
  | _ => none

/-- The code points of a string behind its opening quote, and the text behind the closing one. -/
def readCodes? : Text → Option (List Nat × Text)
  | [] => none
  | '"' :: rest => some ([], rest)
  | '\\' :: 'u' :: a :: b :: c :: d :: rest => do
    let code ← hexValue? a b c d
    let (codes, rest) ← readCodes? rest
    return (code :: codes, rest)
  | '\\' :: c :: rest => do
    let c ← escaped? c
    let (codes, rest) ← readCodes? rest
    return (c.toNat :: codes, rest)
  | c :: rest =>
    if c.toNat < 0x20 || c = '\\' then none
    else do
      let (codes, rest) ← readCodes? rest
      return (c.toNat :: codes, rest)

def readString? (text : Text) : Option (Option Text × Text) :=
  (readCodes? text).map fun (codes, rest) => (textOfCodes codes, rest)

def readDigitRun? (text : Text) : Option (Text × Text) :=
  let digits := text.takeWhile Char.isDigit
  if digits.isEmpty then none else some (digits, text.dropWhile Char.isDigit)

/-- The digits before the point; a zero stands alone. -/
def readIntegerPart? (text : Text) : Option (Text × Text) := do
  let (digits, rest) ← readDigitRun? text
  if digits.head? == some '0' && digits.length != 1 then none
  return (digits, rest)

def readFractionPart? : Text → Option (Text × Text)
  | '.' :: rest => (readDigitRun? rest).map fun (digits, rest) => ('.' :: digits, rest)
  | text => some ([], text)

def readSign : Text → Text × Text
  | [] => ([], [])
  | c :: rest => if c = '+' || c = '-' then ([c], rest) else ([], c :: rest)

def readExponentPart? : Text → Option (Text × Text)
  | [] => some ([], [])
  | c :: rest =>
    if c = 'e' || c = 'E' then
      let (sign, rest) := readSign rest
      (readDigitRun? rest).map fun (digits, rest) => (c :: sign ++ digits, rest)
    else
      some ([], c :: rest)

def readNumber? (text : Text) : Option (Text × Text) := do
  let (whole, rest) ← readIntegerPart? text
  let (fraction, rest) ← readFractionPart? rest
  let (exponent, rest) ← readExponentPart? rest
  return (whole ++ fraction ++ exponent, rest)

def isGap (c : Char) : Bool :=
  c == ' ' || c == '\n' || c == '\t' || c == '\r'

def skipGap (text : Text) : Text :=
  text.dropWhile isGap

def readWord? (text : Text) : Option (Json × Text) :=
  (("null".toList.isPrefixOf? text).map (null, ·)).or <|
    (("true".toList.isPrefixOf? text).map (bool true, ·)).or <|
      ("false".toList.isPrefixOf? text).map (bool false, ·)

mutual

/-- A value behind a gap. The fuel bounds the depth of the value and the number of its parts. -/
def readValue? : Nat → Text → Option (Json × Text)
  | 0, _ => none
  | fuel + 1, text =>
    match skipGap text with
    | '"' :: rest => (readString? rest).map fun (value, rest) => (string value, rest)
    | '[' :: rest =>
      match skipGap rest with
      | ']' :: rest => some (array [], rest)
      | rest => (readItems? fuel rest).map fun (items, rest) => (array items, rest)
    | '{' :: rest =>
      match skipGap rest with
      | '}' :: rest => some (object [], rest)
      | rest => (readEntries? fuel rest).map fun (entries, rest) => (object entries, rest)
    | '-' :: rest => (Json.readNumber? rest).map fun (written, rest) => (number ('-' :: written), rest)
    | rest =>
      (readWord? rest).or ((Json.readNumber? rest).map fun (written, rest) => (number written, rest))

/-- The items of an array, of which there is at least one, and the closing bracket. -/
def readItems? : Nat → Text → Option (List Json × Text)
  | 0, _ => none
  | fuel + 1, text => do
    let (item, rest) ← readValue? fuel text
    match skipGap rest with
    | ',' :: rest =>
      let (items, rest) ← readItems? fuel rest
      return (item :: items, rest)
    | ']' :: rest => return ([item], rest)
    | _ => none

/-- The entries of an object, of which there is at least one, and the closing brace. -/
def readEntries? : Nat → Text → Option (List (Option Text × Json) × Text)
  | 0, _ => none
  | fuel + 1, text =>
    match skipGap text with
    | '"' :: rest => do
      let (key, rest) ← readString? rest
      match skipGap rest with
      | ':' :: rest =>
        let (value, rest) ← readValue? fuel rest
        match skipGap rest with
        | ',' :: rest =>
          let (entries, rest) ← readEntries? fuel rest
          return ((key, value) :: entries, rest)
        | '}' :: rest => return ([(key, value)], rest)
        | _ => none
      | _ => none
    | _ => none

end

def ofText? (text : Text) : Option Json := do
  let (value, rest) ← readValue? (text.length + 1) text
  guard (skipGap rest).isEmpty
  return value

def hexChar (n : Nat) : Char :=
  Nat.digitChar n

/-- A character as it stands in a string: quotes, backslashes and control characters are escaped. -/
def escapeChar (c : Char) : Text :=
  match c with
  | '"' => ['\\', '"']
  | '\\' => ['\\', '\\']
  | '\x08' => ['\\', 'b']
  | '\x0c' => ['\\', 'f']
  | '\n' => ['\\', 'n']
  | '\r' => ['\\', 'r']
  | '\t' => ['\\', 't']
  | c =>
    if c.toNat < 0x20 then
      ['\\', 'u', '0', '0', hexChar (c.toNat / 16), hexChar (c.toNat % 16)]
    else
      [c]

def writeString (text : Text) : Text :=
  '"' :: text.flatMap escapeChar ++ ['"']

end Json

end EventText
