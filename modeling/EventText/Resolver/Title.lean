import EventText.Resolver

/-! Resolving a title. Bare field keys take the value that the description gives them, and the rule
of the preset has the last word. -/

namespace EventText.Resolver

def fieldValue? (sources : List Placeholder) (key : Text) : Option Text :=
  (((sources.filter (·.hasKey key)).filterMap (·.payload)).map Text.trim).find? (!·.isEmpty)

def answerTitle (preset : Preset) (sources : List Placeholder) (p : Placeholder) : Option Text :=
  if p.isBare && preset.role? p.key == some .field then fieldValue? sources p.key else none

/-- The title with the values of fields put in. A preset without fields leaves it as it is. -/
def substituteTitle (r : Resolver) (preset : Preset) (title description : Text) : Text :=
  if preset.fieldKeys.isEmpty then
    title
  else
    let sources := Template.placeholders (r.grammar.pieces description)
    Template.rewrite (answerTitle preset sources) (r.grammar.pieces title)

def resolveTitle (r : Resolver) (preset : Preset) (title description : Text) (start : TimeOfDay) :
    Text :=
  let resolved := r.substituteTitle preset title description
  match preset.titleRule with
  | some rule => rule resolved start
  | none => resolved

end EventText.Resolver
