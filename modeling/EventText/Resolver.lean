import EventText.Choice
import EventText.Participants
import EventText.Preset
import EventText.Template.Grammar

/-!
Resolving a description, in four passes over the text and the annotation of the preset: the pair of
participants, person keys, choices, fields. Placeholders that no pass answers stay as they stand.
-/

namespace EventText

structure Resolver where
  participants : Participants := default
  grammar : Grammar := .pattern

instance : Inhabited Resolver := ⟨{}⟩

namespace Resolver

/-- The pair: `[A]` is its first name, `[B]` its second. It is drawn for the first of them and kept. -/
def answerLinked (r : Resolver) (p : Placeholder) : StateT (Option (Text × Text)) Draw (Option Text) :=
  if p.isBare && (p.hasKey ['A'] || p.hasKey ['B']) then do
    let pair ← match ← get with
      | some pair => pure pair
      | none => r.participants.pair
    set (some pair)
    return some (bold (if p.hasKey ['A'] then pair.1 else pair.2))
  else
    return none

def linkedPass (r : Resolver) (text : Text) : Draw Text :=
  (Template.rewriteM r.answerLinked (r.grammar.pieces text)).run' none

/-- A person for each person key, drawn where the key first stands and kept, with the key's suffix. -/
def answerPerson (r : Resolver) (preset : Preset) (p : Placeholder) :
    StateT (List (Text × Text)) Draw (Option Text) :=
  if p.isBare && preset.role? p.key == some .person then do
    let person ← match (← get).lookup p.key.asciiUpper with
      | some person => pure person
      | none => r.participants.pick
    modify ((p.key.asciiUpper, person) :: ·)
    return some (bold person ++ (preset.suffix? p.key).getD [])
  else
    return none

def personPass (r : Resolver) (preset : Preset) (text : Text) : Draw Text :=
  (Template.rewriteM (r.answerPerson preset) (r.grammar.pieces text)).run' []

def answerChoice (preset : Preset) (p : Placeholder) : Draw (Option Text) :=
  match p.payload with
  | some payload => if preset.role? p.key == some .choice then resolveChoice payload else return none
  | none => return none

def choicePass (r : Resolver) (preset : Preset) (text : Text) : Draw Text :=
  Template.rewriteM (answerChoice preset) (r.grammar.pieces text)

/-- The value of a field key, in bold. A blank value leaves the placeholder, as a form left empty
shows what belongs there. -/
def answerField (preset : Preset) (p : Placeholder) : Option Text :=
  match p.payload with
  | some payload =>
    if preset.role? p.key == some .field && !payload.trim.isEmpty then
      some (bold payload.trim)
    else
      none
  | none => none

def fieldPass (r : Resolver) (preset : Preset) (text : Text) : Text :=
  Template.rewrite (answerField preset) (r.grammar.pieces text)

def substitute (r : Resolver) (preset : Preset) (text : Text) : Draw Text := do
  let text ← r.linkedPass text
  let text ← r.personPass preset text
  let text ← r.choicePass preset text
  return r.fieldPass preset text

/-- The description resolved: the four passes and the preset's annotation. -/
def resolve (r : Resolver) (preset : Preset) (description : Text) : Draw Text := do
  let text ← r.substitute preset description
  return match preset.annotate with
    | some annotate => annotate text
    | none => text

def unresolved (r : Resolver) (text : Text) : List Text :=
  r.grammar.unresolved text

end Resolver

end EventText
