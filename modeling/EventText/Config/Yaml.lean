import EventText.Config.Basic
import EventText.Yaml.Node
import EventText.Yaml.Written

/-! Configurations in YAML: a mapping with two keys, of which each may be missing. -/

namespace EventText.Config

def participantsKey : Text :=
  "participants".toList

def minutesKey : Text :=
  "default_duration_minutes".toList

def toYaml (c : Config) : Text :=
  participantsKey ++
    (if c.participants.isEmpty then ": []\n".toList
      else ":\n".toList ++ Yaml.writeItems c.participants) ++
    minutesKey ++ ": ".toList ++ Text.ofNat c.minutes.toNat ++ ['\n']

open Yaml

/-- A list of texts. Nothing at all is an empty list. -/
def textsOf? (d : Document) (node : Node) : Option (List Text) := do
  match ← d.follow? node with
  | .sequence items => items.mapM d.textOf?
  | .scalar .plain _ [] => return []
  | _ => none

/-- A number of minutes: a plain word without a tag. -/
def minutesOf? (d : Document) (node : Node) : Option UInt32 := do
  match ← d.follow? node with
  | .scalar .plain false word =>
    let n ← readUnsigned? word
    if n < UInt32.size then return UInt32.ofNat n else none
  | _ => none

/-- The value under a key, or `missing`. The key must not be repeated. -/
def valueAt? (read? : Node → Option α) (missing : α) (key : Text) (entries : List (Text × Node)) :
    Option α :=
  match entries.filter (·.1 == key) with
  | [] => some missing
  | [entry] => read? entry.2
  | _ => none

/-- The configuration of a mapping. Its keys are scalars; unknown ones do not matter. -/
def ofEntries? (d : Document) (entries : List (Node × Node)) : Option Config := do
  let entries ← entries.mapM fun (key, value) => (d.textOf? key).map (·, value)
  return {
    participants := ← valueAt? (textsOf? d) Participants.defaultNames participantsKey entries
    minutes := ← valueAt? (minutesOf? d) 60 minutesKey entries }

/-- The configuration of a document. Without content it is the default. -/
def ofDocument? : Option Document → Option Config
  | none => some default
  | some d =>
    match d.root with
    | .mapping entries => ofEntries? d entries
    | .scalar .plain _ [] => some default
    | _ => none

def read? (text : Text) : Option Config := do
  ofDocument? (← Document.ofText? text)

/-- The configuration that a text holds, if it may be used. -/
def ofYaml (text : Text) : Except ConfigError Config := do
  match read? text with
  | none => throw .malformed
  | some c =>
    let _ ← c.pair
    return c

end EventText.Config
