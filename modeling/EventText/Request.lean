import EventText.Catalog
import EventText.Draw.Generator
import EventText.Event
import EventText.Resolver.Title
import EventText.Time.Local

/-!
Requests for an event: a preset, a start, and what is to differ from the preset. The description is
resolved, then the title, which takes the values of fields from the description as it was before.
-/

namespace EventText

structure Request where
  /-- The label or the plain name of a preset. -/
  preset : Text
  start : Text
  finish : Option Text := none
  /-- A template instead of the preset's. -/
  title : Option Text := none
  /-- A template instead of the preset's. -/
  description : Option Text := none
  /-- The event to edit. -/
  id : Option Text := none
  seed : Option UInt64 := none
  grammar : Grammar := .pattern

structure Prepared where
  event : Event
  warnings : List Text
deriving DecidableEq

def Catalog.lookup (catalog : Catalog) (query : Text) : Except Stop Preset :=
  match catalog.find? query with
  | some p => .ok p
  | none => .error (.failed (.user (.unknownPreset query catalog.labels)))

def leftoverWarning (r : Resolver) (part : String) (text : Text) : List Text :=
  let leftovers := r.unresolved text
  if leftovers.isEmpty then []
  else ["unresolved placeholders in ".toList ++ part.toList ++ ": ".toList ++
    Text.join [',', ' '] leftovers]

namespace Request

def titleTemplate (request : Request) (p : Preset) : Except Stop Text :=
  let title := request.title.getD p.title
  if title.trim.isEmpty then .error (.failed (.user .blankTitle)) else .ok title

/-- The end: the one requested, else the start and the configured minutes. -/
def finishAfter (request : Request) (config : Config) (zone : Zone) (start : OffsetInstant) :
    Except Stop OffsetInstant :=
  match request.finish with
  | some finish => zone.readTime finish
  | none =>
    match (start.instant.addMinutes? config.minutes.toNat).bind zone.clockAt? with
    | some t => .ok t
    | none => .error .brokenOff

/-- The start and the end, which does not come before it. -/
def times (request : Request) (config : Config) (zone : Zone) :
    Except Stop (OffsetInstant × OffsetInstant) := do
  let start ← zone.readTime request.start
  let finish ← request.finishAfter config zone start
  if finish.instant.isBefore start.instant then
    throw (.failed (.user (.endBeforeStart finish.reading start.reading)))
  return (start, finish)

def resolver (request : Request) (config : Config) : Except Stop Resolver :=
  match Participants.ofList config.participants with
  | .ok participants => .ok ⟨participants, request.grammar⟩
  | .error cause => .error (.failed (.config (.participants cause)))

/-- What the request draws from: the stream of its seed, else `source`. -/
def generator (request : Request) (source : Generator) : Generator :=
  match request.seed with
  | some seed => .seeded (Seeded.ofSeed seed)
  | none => source

def prepare (request : Request) (catalog : Catalog) (config : Config) (zone : Zone)
    (source : Generator) : Except Stop Prepared := do
  let p ← catalog.lookup request.preset
  let titleTemplate ← request.titleTemplate p
  let template := request.description.getD p.description
  let (start, finish) ← request.times config zone
  let r ← request.resolver config
  match ((r.resolve p template).run (request.generator source)).value with
  | none => throw .brokenOff
  | some description =>
    let title := r.resolveTitle p titleTemplate template start.reading.time
    return {
      event := Event.ofTexts request.id title description start.instant finish.instant
      warnings := leftoverWarning r "title" title ++ leftoverWarning r "description" description }

end Request

end EventText
