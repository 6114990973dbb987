import EventText.Request

/-! What commands print. -/

namespace EventText

structure Report where
  output : List Text
  warnings : List Text := []
deriving DecidableEq

def printed (lines : List Text) : Text :=
  lines.flatMap (· ++ ['\n'])

namespace Report

def listLine (p : Preset) : Text :=
  let roles := p.keys.map fun (key, role) => role.name.toList ++ ':' :: key
  if roles.isEmpty then p.label
  else p.label ++ "  (".toList ++ Text.join [',', ' '] roles ++ [')']

def ofCatalog (catalog : Catalog) : Report :=
  ⟨catalog.presets.map listLine, []⟩

def ruler : Text :=
  List.replicate 80 '='

def keyLines (p : Preset) : List Text :=
  let keys := p.keys.map fun (key, role) => key ++ " (".toList ++ role.name.toList ++ [')']
  if keys.isEmpty then [] else ["Keys:        ".toList ++ Text.join [',', ' '] keys]

def descriptionLines (description : Text) : List Text :=
  if description.isEmpty then ["  (empty)".toList]
  else description.lines.map ("  ".toList ++ ·)

def ofPreset (p : Preset) : Report :=
  ⟨[ruler, p.label, ruler, [], "Title:       ".toList ++ p.title] ++ keyLines p ++
    [[], "Description:".toList] ++ descriptionLines p.description, []⟩

def ofJson (prepared : Prepared) : Report :=
  ⟨[prepared.event.toJson], prepared.warnings⟩

def ofEvent? (zone : Zone) (prepared : Prepared) : Option Report := do
  let start ← zone.clockAt? prepared.event.start
  let finish ← zone.clockAt? prepared.event.finish
  return ⟨[
    "Title:  ".toList ++ prepared.event.title,
    "Start:  ".toList ++ start.reading.toMinute,
    "End:    ".toList ++ finish.reading.toMinute,
    [],
    prepared.event.description], prepared.warnings⟩

def outputText (report : Report) : Text :=
  printed report.output

def warningText (report : Report) : Text :=
  printed (report.warnings.map ("Warning: ".toList ++ ·))

end Report

end EventText
