import EventText.Text.CodeRanges

/-! The Unicode property White_Space. Zero width spaces and the byte order mark are not in it. -/

namespace EventText

def blanks : CodeRanges := ⟨[
    (0x9, 0xD), (0x20, 0x20), (0x85, 0x85), (0xA0, 0xA0), (0x1680, 0x1680), (0x2000, 0x200A),
    (0x2028, 0x2029), (0x202F, 0x202F), (0x205F, 0x205F), (0x3000, 0x3000)]⟩

def isBlank (c : Char) : Bool :=
  blanks.holds c

end EventText
