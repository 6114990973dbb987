import EventText.Participants

/-!
The configuration: the two participants, and the length of an event that has no end of its own.
`Config.pair` answers exactly for configurations that may be used.
-/

namespace EventText

/-- Settings as they are written down, not yet checked. -/
structure Config where
  participants : List Text := Participants.defaultNames
  /-- The length of an event in minutes. -/
  minutes : UInt32 := 60
deriving DecidableEq

instance : Inhabited Config := ⟨{}⟩

inductive ReadError where
  | missing
  | isDirectory
  | notDirectory
  | nameTooLong
  | other (wording : String)
deriving DecidableEq

def ReadError.message : ReadError → String
  | missing => "No such file or directory (os error 2)"
  | isDirectory => "Is a directory (os error 21)"
  | notDirectory => "Not a directory (os error 20)"
  | nameTooLong => "File name too long (os error 36)"
  | other wording => wording

inductive ConfigError where
  | unreadable (path : Text) (cause : ReadError)
  /-- The text is not YAML, or not a configuration. -/
  | malformed
  | participants (cause : ParticipantsError)
  | zeroDuration
deriving DecidableEq

def ConfigError.message : ConfigError → String
  | unreadable path cause =>
    "failed to read config file '" ++ String.ofList path ++ "': " ++ cause.message
  | malformed => "failed to parse config YAML"
  | participants cause => cause.message
  | zeroDuration => "default_duration_minutes must be greater than 0"

namespace Config

/-- The pair of participants, of a configuration that may be used: its names make a pair, and its
events have a length. -/
def pair (c : Config) : Except ConfigError Participants :=
  match Participants.ofList c.participants with
  | .error cause => .error (.participants cause)
  | .ok pair => if c.minutes = 0 then .error .zeroDuration else .ok pair

end Config

end EventText
