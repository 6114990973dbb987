import EventText.Draw.Script
import EventText.Draw.Seeded

/-! Either kind of source, for callers that choose between them when the program runs. -/

namespace EventText

inductive Generator where
  | script (numbers : Script)
  | seeded (stream : Seeded)

instance : Source Generator where
  next count positive
    | .script numbers =>
      let (i, numbers) := Source.next count positive numbers
      (i, .script numbers)
    | .seeded stream =>
      let (i, stream) := Source.next count positive stream
      (i, .seeded stream)

end EventText
