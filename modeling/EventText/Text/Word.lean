import EventText.Text.Alphabetic
import EventText.Text.Mark
import EventText.Text.Numeric

/-! The characters that words are made of. -/

namespace EventText

/-- The category Pc: the low line and its relatives. -/
def connectors : CodeRanges := ⟨[
    (0x5F, 0x5F), (0x203F, 0x2040), (0x2054, 0x2054), (0xFE33, 0xFE34), (0xFE4D, 0xFE4F),
    (0xFF3F, 0xFF3F)]⟩

/-- The property Join_Control: the zero width non-joiner and joiner. -/
def joiners : CodeRanges := ⟨[(0x200C, 0x200D)]⟩

/-- Characters inside a word: letters, marks, decimal digits, connectors and joiners. -/
def isWordChar (c : Char) : Bool :=
  isAlphabetic c || isMark c || isDecimalDigit c || connectors.holds c || joiners.holds c

def isAlphanumeric (c : Char) : Bool :=
  isAlphabetic c || isNumeric c

end EventText
