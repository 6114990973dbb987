import EventText.CommandLine.Arguments
import EventText.CommandLine.Report
import EventText.Config.Yaml

/-! Carrying out a command. -/

namespace EventText.CommandLine

structure Surroundings where
  /-- The content of the file at a path. -/
  read : Text → Except ReadError Text
  zone : Zone
  /-- What is drawn from when there is no seed. -/
  source : Generator

def loadConfig (read : Text → Except ReadError Text) : Option Text → Except ConfigError Config
  | none => .ok default
  | some path =>
    match read path with
    | .error cause => .error (.unreadable path cause)
    | .ok text => Config.ofYaml text

/-- Carries out a command on the presets that come with the program. The configuration is read first,
whether the command needs it or not. -/
def run (around : Surroundings) (invocation : Invocation) : Except Stop Report := do
  let config ← match loadConfig around.read invocation.config with
    | .ok config => pure config
    | .error cause => throw (.failed (.config cause))
  match invocation.command with
  | .list => return Report.ofCatalog Catalog.builtin
  | .describe query => return Report.ofPreset (← Catalog.builtin.lookup query)
  | .resolve request json =>
    let prepared ← request.prepare Catalog.builtin config around.zone around.source
    if json then
      return Report.ofJson prepared
    else
      match Report.ofEvent? around.zone prepared with
      | some report => return report
      | none => throw .brokenOff

end EventText.CommandLine
