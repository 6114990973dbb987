import EventText.Text.Basic

/-! The markup of resolved texts: bold, and lists of items as a sentence names them. -/

namespace EventText

def bold (text : Text) : Text :=
  "<b>".toList ++ text ++ "</b>".toList

/-- The items with commas between them and `and` before the last. -/
def joinWithAnd : List Text → Text
  | [] => []
  | [only] => only
  | [first, last] => first ++ " and ".toList ++ last
  | first :: second :: third :: rest => first ++ ", ".toList ++ joinWithAnd (second :: third :: rest)

end EventText
