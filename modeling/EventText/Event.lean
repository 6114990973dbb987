import EventText.Json.Value
import EventText.Time.Format
import EventText.Time.Rfc3339

/-!
Events that are ready for the event store, and the request body that carries one: a JSON object on
a single line, with the times in universal time.
-/

namespace EventText

inductive Action where
  | create
  | edit
deriving DecidableEq

def Action.name : Action → Text
  | create => "create".toList
  | edit => "edit".toList

def Action.ofName? (name : Text) : Option Action :=
  [create, edit].find? (·.name == name)

structure Event where
  action : Action
  id : Option Text
  title : Text
  description : Text
  start : Instant
  finish : Instant
deriving DecidableEq

namespace Event

/-- An event with resolved texts. One with an id is edited; an empty id counts as none. -/
def ofTexts (id : Option Text) (title description : Text) (start finish : Instant) : Event :=
  let id := id.filter (!·.isEmpty)
  ⟨if id.isSome then .edit else .create, id, title, description, start, finish⟩

def keys : List Text :=
  ["action".toList, "id".toList, "title".toList, "description".toList, "start".toList, "end".toList]

def values (e : Event) : List Text := [
  Json.writeString e.action.name,
  (e.id.map Json.writeString).getD "null".toList,
  Json.writeString e.title,
  Json.writeString e.description,
  Json.writeString e.start.written,
  Json.writeString e.finish.written]

def toJson (e : Event) : Text :=
  let entries := (keys.zip e.values).map fun (key, value) => Json.writeString key ++ ':' :: value
  '{' :: Text.join [','] entries ++ ['}']

/-- An action by its name, or by an object with the name as its only key and nothing under it. -/
def actionOfJson? : Json → Option Action
  | .string (some name) => Action.ofName? name
  | .object [(some name, .null)] => Action.ofName? name
  | _ => none

def idOfJson? : Json → Option (Option Text)
  | .null => some none
  | .string (some id) => some (some id)
  | _ => none

def textOfJson? : Json → Option Text
  | .string text => text
  | _ => none

def instantOfJson? (value : Json) : Option Instant := do
  let t ← readLooseRfc3339? (← textOfJson? value)
  return t.instant

/-- The event of six values in the order of the keys; a missing id is none. -/
def ofValues? (action id title description start finish : Option Json) : Option Event := do
  return {
    action := ← actionOfJson? (← action)
    id := ← (match id with | some id => idOfJson? id | none => some none)
    title := ← textOfJson? (← title)
    description := ← textOfJson? (← description)
    start := ← instantOfJson? (← start)
    finish := ← instantOfJson? (← finish) }

def entriesOf (key : Text) (entries : List (Option Text × Json)) : List Json :=
  (entries.filter fun entry => entry.1 == some key).map (·.2)

/-- The event of a request: an object with the keys, of which none may stand twice and the id may be
missing, or a list of the six values. Other keys do not matter, but have to be texts. -/
def ofJson? : Json → Option Event
  | .array [action, id, title, description, start, finish] =>
    ofValues? action id title description start finish
  | .object entries => do
    guard (entries.all (·.1.isSome))
    guard (keys.all fun key => (entriesOf key entries).length ≤ 1)
    let value key := (entriesOf key entries).head?
    ofValues? (value "action".toList) (value "id".toList) (value "title".toList)
      (value "description".toList) (value "start".toList) (value "end".toList)
  | _ => none

def ofText? (text : Text) : Option Event := do
  ofJson? (← Json.ofText? text)

end Event

end EventText
