import EventText.Text.Basic

/-!
Plain words: a scalar without quotes may stand for nothing, a truth value or a number instead of a
text. Numbers with superfluous zeros in front are texts.
-/

namespace EventText.Yaml

def isNullWord (word : Text) : Bool :=
  ["", "~", "null", "Null", "NULL"].any (·.toList == word)

def isBoolWord (word : Text) : Bool :=
  ["true", "True", "TRUE", "false", "False", "FALSE"].any (·.toList == word)

def dropSign (signs : List Char) : Text → Text
  | [] => []
  | c :: rest => if signs.contains c then rest else c :: rest

/-- Digits with a zero in front, signed or not, that is not the only digit. -/
def hasIdleZero (word : Text) : Bool :=
  match dropSign ['+', '-'] word with
  | '0' :: rest => !rest.isEmpty && rest.all Char.isDigit
  | _ => false

def digitValue? (c : Char) : Option Nat :=
  if c.isDigit then some (c.toNat - '0'.toNat)
  else if c.isAlpha then some (c.toLower.toNat - 'a'.toNat + 10)
  else none

def readInBase? (base : Nat) (word : Text) : Option Nat :=
  if word.isEmpty then none
  else word.foldlM (fun n c =>
    (digitValue? c).bind fun d => if d < base then some (n * base + d) else none) 0

/-- A number in the base that two characters at its front name, else in base ten. -/
def readMagnitude? (word : Text) : Option Nat :=
  match word with
  | '0' :: 'x' :: digits => readInBase? 16 digits
  | '0' :: 'o' :: digits => readInBase? 8 digits
  | '0' :: 'b' :: digits => readInBase? 2 digits
  | digits => readInBase? 10 digits

/-- A whole number that is not negative. It may have a plus sign. -/
def readUnsigned? (word : Text) : Option Nat :=
  if hasIdleZero word then none else readMagnitude? (dropSign ['+'] word)

/-- The words for whole numbers, which have 128 bits at most. -/
def isIntegerWord (word : Text) : Bool :=
  (readUnsigned? word).any (· < Nat.pow 2 128) ||
    match word with
    | '-' :: digits => !hasIdleZero digits && (readMagnitude? digits).any (· ≤ Nat.pow 2 127)
    | _ => false

/-- An exponent: a letter, perhaps a sign, and digits. No exponent is zero. -/
def readExponent? : Text → Option Int
  | [] => some 0
  | c :: rest =>
    if c = 'e' || c = 'E' then
      let digits := (readInBase? 10 (dropSign ['+', '-'] rest)).map Int.ofNat
      if rest.head? == some '-' then digits.map (- ·) else digits
    else
      none

/-- A decimal number: digits, perhaps with a point among or beside them, and an exponent. The
result is the digits with the power of ten that the last of them counts. -/
def readDecimal? (word : Text) : Option (Text × Int) := do
  let whole := word.takeWhile Char.isDigit
  let rest := word.dropWhile Char.isDigit
  let behindPoint := match rest with
    | '.' :: rest => rest
    | _ => []
  let fraction := behindPoint.takeWhile Char.isDigit
  let rest := if rest.head? == some '.' then behindPoint.dropWhile Char.isDigit else rest
  if whole.isEmpty && fraction.isEmpty then none
  return (whole ++ fraction, (← readExponent? rest) - fraction.length)

/-- The least number that is too great for a binary float of 64 bits. -/
def floatLimit : Nat :=
  Nat.pow 2 1024 - Nat.pow 2 970

def isFinite (digits : Text) (exponent : Int) : Bool :=
  let digits := digits.dropWhile (· == '0')
  let magnitude := digits.length + exponent
  digits.isEmpty || magnitude < 309 || (magnitude = 309 &&
    (readInBase? 10 digits).any fun n =>
      n * Nat.pow 10 exponent.toNat < floatLimit * Nat.pow 10 (-exponent).toNat)

def isInfinityWord (word : Text) : Bool :=
  [".inf", ".Inf", ".INF"].any (·.toList == word)

def isFloatWord (word : Text) : Bool :=
  [".nan", ".NaN", ".NAN"].any (·.toList == word) ||
    isInfinityWord (dropSign ['+', '-'] word) ||
    (readDecimal? (dropSign ['+', '-'] word)).any fun (digits, exponent) => isFinite digits exponent

def isTextWord (word : Text) : Bool :=
  !(isNullWord word || isBoolWord word || isIntegerWord word || isFloatWord word || hasIdleZero word)

end EventText.Yaml
