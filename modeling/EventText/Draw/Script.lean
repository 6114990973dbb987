import EventText.Draw.Basic

/-! A source that replays a list of numbers, for reproducing a course of events. -/

namespace EventText

/-- The numbers still to come. When they are used up, the first index is taken. -/
structure Script where
  numbers : List Nat

/-- Each answer is the next number, wrapped into the range asked for. -/
instance : Source Script where
  next count positive script :=
    (⟨script.numbers.headD 0 % count, Nat.mod_lt _ positive⟩, ⟨script.numbers.tail⟩)

end EventText
