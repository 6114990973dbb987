import EventText.Text.Basic
import EventText.Text.Fold
import EventText.Text.Word

/-! Replacing a whole word. Case does not matter, and the word must stand between word boundaries:
places with a word character on exactly one side. -/

namespace EventText

/-- The text after `word`, when the text begins with it in any case. -/
def dropFolded? : Text → Text → Option Text
  | [], text => some text
  | _ :: _, [] => none
  | w :: word, c :: text => if sameFolded w c then dropFolded? word text else none

/-- The neighbour is a word character; the ends of a text count as none. -/
def isInWord : Option Char → Bool
  | none => false
  | some c => isWordChar c

/-- Exactly one of two neighbours is a word character. -/
def isWordBoundary (before after : Option Char) : Bool :=
  isInWord before != isInWord after

/-- The text after `word`, when it stands as a whole word at the front of `text` and the character
`before` comes before that. -/
def dropWord? (word : Text) (before : Option Char) (text : Text) : Option Text :=
  match dropFolded? word text with
  | none => none
  | some after =>
    if isWordBoundary before text.head? &&
        isWordBoundary ((text.take word.length).getLast?.or before) after.head? then
      some after
    else
      none

/-- Replaces the first whole word in a text with the character `before` in front of it. -/
def replaceWordAfter (word replacement : Text) (before : Option Char) : Text → Text
  | [] => ((dropWord? word before []).map (replacement ++ ·)).getD []
  | c :: rest =>
    match dropWord? word before (c :: rest) with
    | some after => replacement ++ after
    | none => c :: replaceWordAfter word replacement (some c) rest

/-- The text with the first whole-word occurrence of `word`, in any case, replaced. -/
def replaceWord (word replacement text : Text) : Text :=
  replaceWordAfter word replacement none text

end EventText
