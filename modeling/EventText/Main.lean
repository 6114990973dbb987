import EventText.CommandLine.Run
import EventText.Time.ZoneText

/-! The program: reads its words, the zone and the configuration file, and prints the report. -/

namespace EventText.CommandLine

def usage : String :=
  "Usage: presets [--config FILE] list | show PRESET | resolve PRESET --start TIME [OPTIONS]\n" ++
  "Options of resolve: --end TIME, --title TEXT, --description TEXT, --id ID, --seed NUMBER,\n" ++
  "--grammar regex|scanner, --json"

def Refusal.message : Refusal → String
  | help => usage
  | version => "presets 0.1.0"
  | nothingAsked => usage
  | missingCommand => "error: a command is missing\n\n" ++ usage
  | unknownCommand => "error: there is no such command\n\n" ++ usage
  | unknownArgument => "error: there is no such argument\n\n" ++ usage
  | invalidValue => "error: a value is missing or not possible\n\n" ++ usage
  | unreadableValue => "error: a value cannot be read\n\n" ++ usage
  | valueOfFlag => "error: a flag does not have a value\n\n" ++ usage
  | repeatedArgument => "error: an argument is given twice\n\n" ++ usage
  | missingArgument => "error: an argument is missing\n\n" ++ usage

def readErrorOf : IO.Error → ReadError
  | .noFileOrDirectory .. => .missing
  | .inappropriateType .. => .isDirectory
  | e => .other (toString e)

def readText (path : Text) : IO (Except ReadError Text) := do
  try
    let content ← IO.FS.readFile (String.ofList path)
    return .ok content.toList
  catch e =>
    return .error (readErrorOf e)

def conclude : Except Stop Report → IO UInt32
  | .ok report => do
    IO.eprint (String.ofList report.warningText)
    IO.print (String.ofList report.outputText)
    return Failure.successCode.toUInt32
  | .error (.failed cause) => do
    IO.eprintln ("Error: " ++ cause.message)
    return cause.exitCode.toUInt32
  | .error .brokenOff => do
    IO.eprintln "Error: a time is out of range"
    return 101

end EventText.CommandLine

open EventText EventText.CommandLine in
def main (words : List String) : IO UInt32 := do
  match readWords (words.map String.toList) with
  | .error refusal =>
    if refusal.exitCode = 0 then IO.println refusal.message else IO.eprintln refusal.message
    return refusal.exitCode.toUInt32
  | .ok invocation =>
    let content ← match invocation.config with
      | some path => readText path
      | none => pure (.error .missing)
    let zone := ((← IO.getEnv "TZ").bind fun text => Zone.ofText? text.toList).getD Zone.utc
    let seed ← IO.rand 0 (UInt64.size - 1)
    conclude (run ⟨fun _ => content, zone, .seeded (Seeded.ofSeed seed.toUInt64)⟩ invocation)
