import EventText.Placeholder
import EventText.Time.TimeOfDay

/-!
Presets: the templates of an event's title and description, with the role that each key plays.
`Preset.violation?` finds the first rule that a preset breaks.
-/

namespace EventText

/-- How a key is resolved: by choosing an item, by picking a person, by copying a value. -/
inductive Role where
  | choice
  | person
  | field
deriving DecidableEq

def Role.name : Role → String
  | choice => "choice"
  | person => "person"
  | field => "field"

structure Preset where
  label : Text
  title : Text := []
  description : Text := []
  choiceKeys : List Text := []
  personKeys : List Text := []
  fieldKeys : List Text := []
  /-- What follows the person that a key picked; the first entry for a key counts. -/
  personSuffixes : List (Text × Text) := []
  /-- What is done to a resolved description. -/
  annotate : Option (Text → Text) := none
  /-- How the time of day changes a resolved title. -/
  titleRule : Option (Text → TimeOfDay → Text) := none

/-- The keys of the pair of participants, which no preset may declare. -/
def linkedKeys : List Text :=
  [['A'], ['B']]

inductive Violation where
  | blankLabel
  | malformedKey (role : Role) (key : Text)
  | reservedKey (key : Text)
  | repeatedKey (key : Text)
  | strangeSuffix (key : Text)
  /-- A rule of catalogs: their labels differ. -/
  | labelTaken
deriving DecidableEq

def Violation.message : Violation → String
  | blankLabel => "label must not be empty"
  | malformedKey role key =>
    role.name ++ " key '" ++ String.ofList key ++ "' must use only ASCII letters, digits and '_'"
  | reservedKey key => "key '" ++ String.ofList key ++ "' is reserved for the linked pair"
  | repeatedKey key => "key '" ++ String.ofList key ++ "' is declared more than once"
  | strangeSuffix key =>
    "suffix given for '" ++ String.ofList key ++ "', which is not a person key"
  | labelTaken => "label is already used by another preset"

structure InvalidPreset where
  label : Text
  violation : Violation
deriving DecidableEq

def InvalidPreset.message (e : InvalidPreset) : String :=
  "invalid preset '" ++ String.ofList e.label ++ "': " ++ e.violation.message

namespace Preset

def keys (p : Preset) : List (Text × Role) :=
  p.choiceKeys.map (·, .choice) ++ p.personKeys.map (·, .person) ++ p.fieldKeys.map (·, .field)

/-- The role of a key, in any case. -/
def role? (p : Preset) (key : Text) : Option Role :=
  (p.keys.find? fun entry => entry.1.sameAscii key).map (·.2)

def suffix? (p : Preset) (key : Text) : Option Text :=
  (p.personSuffixes.find? fun entry => entry.1.sameAscii key).map (·.2)

/-- The first rule that a list of keys breaks, where the keys in `seen` came before. -/
def keyViolation? (seen : List Text) : List (Text × Role) → Option Violation
  | [] => none
  | (key, role) :: rest =>
    if !isValidKey key then
      some (.malformedKey role key)
    else if linkedKeys.any (·.sameAscii key) then
      some (.reservedKey key)
    else if seen.any (·.sameAscii key) then
      some (.repeatedKey key)
    else
      keyViolation? (key :: seen) rest

def suffixViolation? (p : Preset) : Option Violation :=
  (p.personSuffixes.find? fun entry => p.role? entry.1 != some .person).map
    (.strangeSuffix ·.1)

/-- The first rule that the preset breaks: of its label, then of its keys in order, then of its
suffixes in order. -/
def violation? (p : Preset) : Option Violation :=
  if p.label.trim.isEmpty then
    some .blankLabel
  else
    (keyViolation? [] p.keys).or p.suffixViolation?

def validate (p : Preset) : Except InvalidPreset Preset :=
  match p.violation? with
  | some violation => .error ⟨p.label, violation⟩
  | none => .ok p

end Preset

end EventText
