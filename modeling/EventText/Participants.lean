import EventText.Draw.Basic
import EventText.Text.Basic

/-! The two people that every question of who is answered from. -/

namespace EventText

/-- An ordered pair of names. The names differ, so that the pair never names one person twice. -/
structure Participants where
  first : Text
  second : Text
  distinct : first ≠ second

inductive ParticipantsError where
  | emptyName
  | sameName (name : Text)
  | wrongCount (found : Nat)
deriving DecidableEq

def ParticipantsError.message : ParticipantsError → String
  | emptyName => "participant names must be non-empty"
  | sameName name =>
    "participant names must be distinct (both are '" ++ String.ofList name ++ "')"
  | wrongCount found => "exactly two participants are required, found " ++ toString found

namespace Participants

/-- The pair of two names, trimmed. An empty name is refused before equal names are. -/
def ofPair (first second : Text) : Except ParticipantsError Participants :=
  if first.trim.isEmpty || second.trim.isEmpty then
    .error .emptyName
  else if same : first.trim = second.trim then
    .error (.sameName first.trim)
  else
    .ok ⟨first.trim, second.trim, same⟩

/-- The pair of a list, which must hold exactly two names. -/
def ofList : List Text → Except ParticipantsError Participants
  | [first, second] => ofPair first second
  | names => .error (.wrongCount names.length)

def defaultNames : List Text :=
  ["Ricardo".toList, "Carolina".toList]

instance : Inhabited Participants :=
  ⟨"Ricardo".toList, "Carolina".toList, by decide⟩

def names (p : Participants) : List Text :=
  [p.first, p.second]

/-- One participant: the second when the coin shows `true`. -/
def pick (p : Participants) : Draw Text := do
  return if ← Draw.coin then p.second else p.first

/-- Both participants, in the order that one coin decides. -/
def pair (p : Participants) : Draw (Text × Text) := do
  return if ← Draw.coin then (p.second, p.first) else (p.first, p.second)

end Participants

end EventText
