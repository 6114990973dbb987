import EventText.Yaml.Folding

/-!
Quoted scalars. Between single quotes every character stands for itself and a quote is doubled;
between double quotes a backslash begins an escape. Both are folded.
-/

namespace EventText.Yaml

/-- What stands before the closing single quote, with doubled quotes single, and the text after. -/
def cutSingle? : Text → Option (Text × Text)
  | [] => none
  | '\'' :: '\'' :: rest => (cutSingle? rest).map fun (body, after) => ('\'' :: body, after)
  | '\'' :: rest => some ([], rest)
  | c :: rest => (cutSingle? rest).map fun (body, after) => (c :: body, after)

def readSingle? (text : Text) : Option (Text × Text) := do
  let (body, after) ← cutSingle? text
  if hasMarkerLine (body ++ ['\'']) then none
  return (fold body, after)

/-- What stands before the closing double quote, escapes as they are, and the text after. -/
def cutDouble? : Text → Option (Text × Text)
  | [] => none
  | '\\' :: c :: rest => (cutDouble? rest).map fun (body, after) => ('\\' :: c :: body, after)
  | '"' :: rest => some ([], rest)
  | c :: rest => (cutDouble? rest).map fun (body, after) => (c :: body, after)

def hexDigit? (c : Char) : Option Nat :=
  if c.isDigit then some (c.toNat - '0'.toNat)
  else if 'a' ≤ c && c ≤ 'f' then some (c.toNat - 'a'.toNat + 10)
  else if 'A' ≤ c && c ≤ 'F' then some (c.toNat - 'A'.toNat + 10)
  else none

def hexValue? (digits : Text) : Option Nat :=
  digits.foldlM (fun n c => (hexDigit? c).map (n * 16 + ·)) 0

def hexChar? (digits : Text) : Option Char := do
  let code ← hexValue? digits
  if code.isValidChar then some (Char.ofNat code) else none

def escapes : List (Char × Char) := [
  ('0', '\x00'), ('a', '\x07'), ('b', '\x08'), ('t', '\t'), ('\t', '\t'), ('n', '\n'), ('v', '\x0B'),
  ('f', '\x0C'), ('r', '\r'), ('e', '\x1B'), (' ', ' '), ('"', '"'), ('/', '/'), ('\\', '\\'),
  ('N', '\x85'), ('_', '\xA0'), ('L', '\u2028'), ('P', '\u2029')]

def hexWidth? : Char → Option Nat
  | 'x' => some 2
  | 'u' => some 4
  | 'U' => some 8
  | _ => none

/-- The text between double quotes with its escapes read and its white space folded. An escaped line
break joins the lines without a space. -/
def unescape? : Text → Option Text
  | [] => some []
  | ['\\'] => none
  | '\\' :: c :: rest =>
    if isBreak c then
      (unescape? (rest.dropWhile isWhite)).map ((rest.takeWhile isWhite).filter isBreak ++ ·)
    else
      match hexWidth? c with
      | some width => do
        if rest.length < width then none
        let c ← hexChar? (rest.take width)
        return c :: (← unescape? (rest.drop width))
      | none => do
        let c ← escapes.lookup c
        return c :: (← unescape? rest)
  | c :: rest =>
    if isBreak c then
      (unescape? (rest.dropWhile isWhite)).map
        (foldBreaks (c :: (rest.takeWhile isWhite).filter isBreak) ++ ·)
    else if isGap c && (rest.takeWhile isWhite).any isBreak then
      unescape? rest
    else
      (unescape? rest).map (c :: ·)
termination_by text => text.length
decreasing_by
  · exact Nat.lt_succ_of_lt (length_dropWhile_lt isWhite c rest)
  · simp only [List.length_drop, List.length_cons]; omega
  · simp only [List.length_cons]; omega
  · exact length_dropWhile_lt isWhite c rest
  · simp
  · simp

def readDouble? (text : Text) : Option (Text × Text) := do
  let (body, after) ← cutDouble? text
  if hasMarkerLine (body ++ ['"']) then none
  return (← unescape? body, after)

def indentation : Text :=
  [' ', ' ']

/-- The text between single quotes. A line that a separator begins is indented. -/
def singleBody (afterBreak : Bool) : Text → Text
  | [] => if afterBreak then indentation else []
  | c :: rest =>
    if isBreak c then c :: singleBody true rest
    else
      (if afterBreak then indentation else []) ++
        (if c = '\'' then ['\'', '\''] else [c]) ++ singleBody false rest

def writeSingle (text : Text) : Text :=
  '\'' :: singleBody false text ++ ['\'']

def hexPadded (width n : Nat) : Text :=
  let digits := (Nat.toDigits 16 n).map Char.toUpper
  List.replicate (width - digits.length) '0' ++ digits

def hexEscape (c : Char) : Text :=
  if c.toNat ≤ 0xFF then '\\' :: 'x' :: hexPadded 2 c.toNat
  else if c.toNat ≤ 0xFFFF then '\\' :: 'u' :: hexPadded 4 c.toNat
  else '\\' :: 'U' :: hexPadded 8 c.toNat

def letterFor? : Char → Option Char
  | '\x00' => some '0'
  | '\x07' => some 'a'
  | '\x08' => some 'b'
  | '\t' => some 't'
  | '\n' => some 'n'
  | '\x0B' => some 'v'
  | '\x0C' => some 'f'
  | '\r' => some 'r'
  | '\x1B' => some 'e'
  | '"' => some '"'
  | '\\' => some '\\'
  | '\x85' => some 'N'
  | '\u2028' => some 'L'
  | '\u2029' => some 'P'
  | _ => none

def escapeChar (c : Char) : Text :=
  if isPrintable c && !isBreak c && c != '"' && c != '\\' then [c]
  else
    match letterFor? c with
    | some letter => ['\\', letter]
    | none => hexEscape c

def writeDouble (text : Text) : Text :=
  '"' :: text.flatMap escapeChar ++ ['"']

end EventText.Yaml
