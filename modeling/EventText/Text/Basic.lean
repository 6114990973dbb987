import EventText.Text.Blank

/-! Texts as lists of characters, and the few operations on them that the whole library shares. -/

namespace EventText

/-- A text is a list of characters. Recognition, splicing and their laws go by structural
recursion; offsets in bytes are derived. -/
abbrev Text := List Char

namespace Text

def trimStart (text : Text) : Text :=
  text.dropWhile isBlank

def trimEnd (text : Text) : Text :=
  (text.reverse.dropWhile isBlank).reverse

def trim (text : Text) : Text :=
  text.trimStart.trimEnd

/-- The texts one after the other with `between` in each gap. -/
def join (between : Text) : List Text → Text
  | [] => []
  | [only] => only
  | first :: rest => first ++ between ++ join between rest

def hasPart (part : Text) : Text → Bool
  | [] => part.isEmpty
  | c :: rest => part.isPrefixOf (c :: rest) || hasPart part rest

/-- The lines of the text. A line feed after the last of them does not begin another one, and a
carriage return before a line feed does not belong to the line. -/
def lines (text : Text) : List Text :=
  match (text.splitOn '\n').reverse with
  | [] => []
  | last :: before =>
    let before := before.map fun line => if line.getLast? = some '\r' then line.dropLast else line
    (if last.isEmpty then before else last :: before).reverse

def utf8Length (text : Text) : Nat :=
  text.foldr (fun c n => c.utf8Size + n) 0

def asciiUpper (text : Text) : Text :=
  text.map Char.toUpper

def sameAscii (a b : Text) : Bool :=
  a.asciiUpper == b.asciiUpper

def ofNat (n : Nat) : Text :=
  Nat.toDigits 10 n

/-- The number in decimal notation, filled up with zeros to `width` digits. -/
def padded (width n : Nat) : Text :=
  List.replicate (width - (ofNat n).length) '0' ++ ofNat n

end Text

end EventText
