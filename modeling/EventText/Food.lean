import EventText.Pattern
import EventText.Text.Lower

/-!
Marking the chosen food: an emoji goes in front of each label that names a food known by keyword.
A label that already has a food emoji in front of it is left alone, so marking twice changes nothing.
-/

namespace EventText

def foodLabel : Text :=
  "What to eat:".toList

/-- Keywords in lower case and their emoji; the first keyword that a food contains counts. -/
def foodEmojis : List (Text × Text) := [
  ("sushi".toList, "🍣".toList),
  ("pizza".toList, "🍕".toList),
  ("burger".toList, "🍔".toList),
  ("taco".toList, "🌮".toList),
  ("ramen".toList, "🍜".toList),
  ("pasta".toList, "🍝".toList),
  ("salad".toList, "🥗".toList),
  ("curry".toList, "🍛".toList),
  ("steak".toList, "🥩".toList),
  ("chicken".toList, "🍗".toList)]

/-- The emoji of a food, whatever the case of its name. -/
def foodEmoji? (food : Text) : Option Text :=
  (foodEmojis.find? fun entry => entry.1.hasPart food.lower).map (·.2)

/-- The label with a bold food behind it; the group is the food. -/
def foodPattern : Pattern :=
  .seq (.literal (foodLabel ++ " <b>".toList)) <|
    .seq (.group 1 (.run (· != '<'))) (.literal "</b>".toList)

def foodMark (emoji : Text) : Text :=
  emoji ++ [' ']

/-- The text before a label, read backwards, ends in the mark of some food. -/
def endsMarked (before : Text) : Bool :=
  foodEmojis.any fun entry => (foodMark entry.2).reverse.isPrefixOf before

/-- The mark that a match of the label gets behind the text `before`, which is read backwards. -/
def markOf (before : Text) (captures : Captures) : Text :=
  match foodEmoji? ((captures.get? 1).getD []) with
  | some emoji => if endsMarked before then [] else foodMark emoji
  | none => []

/-- Marks the labels of a text that stands behind `before`, which is read backwards. -/
def markFrom (before : Text) : List Found → Text
  | [] => []
  | .letter c :: rest => c :: markFrom (c :: before) rest
  | .hit text captures :: rest =>
    markOf before captures ++ text ++ markFrom (text.reverse ++ before) rest

def annotateFood (text : Text) : Text :=
  markFrom [] (foodPattern.scan text)

end EventText
