import EventText.Draw.Basic
import EventText.Markup

/-! Choices: a list of items between commas, of which one is picked and the others are named in a
line of consolation. -/

namespace EventText

def consolation : Text :=
  "Better luck next time for ".toList

/-- The parts between commas, trimmed, without the empty ones. -/
def splitItems (payload : Text) : List Text :=
  ((payload.splitOn ',').map Text.trim).filter fun item => !item.isEmpty

/-- The picked item in bold, followed by a line that names the others when there are any. -/
def announce (items : List Text) (i : Fin items.length) : Text :=
  let others := items.eraseIdx i
  if others.isEmpty then
    bold items[i]
  else
    bold items[i] ++ '\n' :: consolation ++ joinWithAnd others ++ ['.']

/-- Picks one item of the payload; nothing is drawn when it holds none. -/
def resolveChoice (payload : Text) : Draw (Option Text) :=
  if (splitItems payload).isEmpty then
    return none
  else do
    let i ← Draw.indexBelow (splitItems payload).length
    return some (announce (splitItems payload) i)

end EventText
