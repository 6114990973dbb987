import EventText.Text.Basic

/-!
The characters of YAML: which may stand in a stream, which end lines, which may be written as they
are. Reading works on streams in which every line break is one character.
-/

namespace EventText.Yaml

/-- Line breaks: line feed, carriage return, next line, line separator, paragraph separator. -/
def isBreak (c : Char) : Bool :=
  c == '\n' || c == '\r' || c == '\x85' || c == '\u2028' || c == '\u2029'

def isGap (c : Char) : Bool :=
  c == ' ' || c == '\t'

def isWhite (c : Char) : Bool :=
  isGap c || isBreak c

def atWordEnd : Text → Bool
  | [] => true
  | c :: _ => isWhite c

def isNameChar (c : Char) : Bool :=
  c.isAlphanum || c == '_' || c == '-'

def orderMark : Char := '\uFEFF'

def isReadable (c : Char) : Bool :=
  c == '\t' || c == '\n' || c == '\r' || (' ' ≤ c && c ≤ '~') || c == '\x85' ||
    ('\xA0' ≤ c && c.toNat ≤ 0xFFFD) || 0x10000 ≤ c.toNat

/-- Characters that are written as they are; the others need an escape. -/
def isPrintable (c : Char) : Bool :=
  c == '\n' || (' ' ≤ c && c ≤ '~') || ('\xA0' ≤ c && c.toNat ≤ 0xFFFD && c != orderMark) ||
    0x10000 ≤ c.toNat

/-- Line feeds in place of carriage returns, next lines and pairs of carriage return and line feed.
The two separators stay what they are. -/
def unifyBreaks : Text → Text
  | [] => []
  | '\r' :: '\n' :: rest => '\n' :: unifyBreaks rest
  | '\r' :: rest => '\n' :: unifyBreaks rest
  | '\x85' :: rest => '\n' :: unifyBreaks rest
  | c :: rest => c :: unifyBreaks rest

def dropOrderMark : Text → Text
  | [] => []
  | c :: rest => if c = orderMark then rest else c :: rest

/-- The stream that a text holds, unless a character may not stand in it. -/
def stream? (text : Text) : Option Text :=
  if (dropOrderMark text).all isReadable then some (unifyBreaks (dropOrderMark text)) else none

def isMarker (mark : Char) : Text → Bool
  | a :: b :: c :: rest => a == mark && b == mark && c == mark && atWordEnd rest
  | _ => false

def atDocumentMarker (text : Text) : Bool :=
  isMarker '-' text || isMarker '.' text

def hasMarkerLine : Text → Bool
  | [] => false
  | c :: rest => (isBreak c && atDocumentMarker rest) || hasMarkerLine rest

/-- The rest of a line that holds nothing but blanks and a comment, taken away together with its
break. -/
def dropLineEnd? (text : Text) : Option Text :=
  let rest := text.dropWhile isGap
  let rest := if rest.head? == some '#' then rest.dropWhile (!isBreak ·) else rest
  match rest with
  | [] => some []
  | c :: rest => if isBreak c then some rest else none

end EventText.Yaml
