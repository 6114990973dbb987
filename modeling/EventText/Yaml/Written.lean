import EventText.Yaml.Block
import EventText.Yaml.Word

/-!
Written texts: the style in which a text is written so that it is read back as that text. Words are
plain where nothing speaks against it, several lines are a literal scalar, all else is quoted.
-/

namespace EventText.Yaml

def hasSpaceAfterBreak : Text → Bool
  | c :: d :: rest => (isBreak c && d == ' ') || hasSpaceAfterBreak (d :: rest)
  | _ => false

def hasSpaceBeforeBreak : Text → Bool
  | c :: d :: rest => (c == ' ' && isBreak d) || hasSpaceBeforeBreak (d :: rest)
  | _ => false

/-- Nothing but escapes can show the text. -/
def needsEscapes (text : Text) : Bool :=
  !text.all isPrintable || hasSpaceBeforeBreak text

def allowsSingle (text : Text) : Bool :=
  !needsEscapes text && !hasSpaceAfterBreak text

def allowsLiteral (text : Text) : Bool :=
  !needsEscapes text && text.getLast? != some ' '

/-- The beginning of the text has a meaning of its own in YAML. -/
def hasLeadingIndicator : Text → Bool
  | [] => false
  | c :: rest =>
    "---".toList.isPrefixOf (c :: rest) || "...".toList.isPrefixOf (c :: rest) ||
      "#,[]\x7b\x7d&*!|>'\"%@\x60".toList.contains c ||
      (['?', ':', '-'].contains c && atWordEnd rest)

/-- Behind the first character stands a colon that ends a word, or a comment begins. -/
def hasInnerIndicator : Text → Bool
  | c :: d :: rest =>
    (d == ':' && atWordEnd rest) || (d == '#' && isWhite c) || hasInnerIndicator (d :: rest)
  | _ => false

def allowsPlain (text : Text) : Bool :=
  !needsEscapes text && !text.any isBreak && text.head? != some ' ' && text.getLast? != some ' ' &&
    !hasLeadingIndicator text && !hasInnerIndicator text

def writeText (text : Text) : Text :=
  if text.contains '\n' then
    if allowsLiteral text then writeLiteral text else writeDouble text
  else if isTextWord text && allowsPlain text then
    text
  else if allowsSingle text then
    writeSingle text
  else
    writeDouble text

/-- The lines of a sequence of texts, a hyphen before each text. A text that ends in a break of its
own ends the line. -/
def writeItems (texts : List Text) : Text :=
  texts.flatMap fun text =>
    let item := '-' :: ' ' :: writeText text
    if item.getLast?.any isBreak then item else item ++ ['\n']

end EventText.Yaml
