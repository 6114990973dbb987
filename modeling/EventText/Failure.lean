import EventText.Config.Basic
import EventText.Preset
import EventText.Time.Format

/-! What can go wrong for the user, what the user is told, and with which exit code the program ends. -/

namespace EventText

inductive UserError where
  | unknownPreset (query : Text) (labels : List Text)
  | blankTitle
  | unreadableTime (input : Text)
  /-- The clocks went forward over the time. -/
  | skippedTime (input : Text)
  | endBeforeStart (finish start : DateTime)
deriving DecidableEq

def UserError.message : UserError → String
  | unknownPreset query labels =>
    "preset '" ++ String.ofList query ++ "' not found.\n\nAvailable presets: " ++
      String.ofList (Text.join [',', ' '] labels) ++
      "\n\nUse \x60presets list\x60 to see all presets."
  | blankTitle => "title must not be empty.\n\nPass --title or pick a preset with a title."
  | unreadableTime input =>
    "invalid time '" ++ String.ofList input ++ "'. Use YYYY-MM-DD HH:MM or RFC3339."
  | skippedTime input =>
    "'" ++ String.ofList input ++ "' does not exist in the local time zone"
  | endBeforeStart finish start =>
    "end time '" ++ String.ofList finish.toMinute ++ "' is before start time '" ++
      String.ofList start.toMinute ++ "'"

inductive Failure where
  | user (cause : UserError)
  | preset (cause : InvalidPreset)
  | config (cause : ConfigError)
deriving DecidableEq

namespace Failure

def message : Failure → String
  | user cause => cause.message
  | preset cause => cause.message
  | config cause => "config error: " ++ cause.message

def successCode : Nat := 0

def exitCode : Failure → Nat
  | user _ => 1
  | preset _ => 2
  | config _ => 3

end Failure

inductive Stop where
  | failed (cause : Failure)
  /-- It broke off without a message: a time lay beyond the range of the clock, or a local clock was
  a day or more away from universal time. -/
  | brokenOff
deriving DecidableEq

end EventText
