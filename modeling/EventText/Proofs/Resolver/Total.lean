import EventText.Proofs.Resolver.Passes

/-! Resolving always comes to its end. No pass asks for an index below zero, whatever the earlier
passes have written, so every source carries every description through. -/

namespace EventText

open Template

theorem answerable_resolveChoice (payload : Text) : (resolveChoice payload).Answerable := by
  unfold resolveChoice
  split
  · exact Draw.answerable_pure _
  · rename_i h
    have hcount : 0 < (splitItems payload).length := by simpa [List.length_pos_iff] using h
    exact (Draw.answerable_indexBelow hcount).map _

namespace Resolver

theorem asks_drawPair (r : Resolver) (ps : List Piece) :
    (r.drawPair ps).Asks (if (placeholders ps).any Placeholder.isLinked then [2] else []) := by
  unfold drawPair
  split
  · exact Draw.asks_coin.map _
  · exact rfl

theorem asks_drawPersons (r : Resolver) (keys : List Text) :
    (r.drawPersons keys).Asks (keys.map fun _ => 2) := by
  induction keys with
  | nil => exact rfl
  | cons key keys ih =>
    have hpick : r.participants.pick.Asks [2] := Draw.asks_coin.map _
    exact hpick.bind fun person => ih.map ((key, person) :: ·)

theorem answerable_answerChoice (preset : Preset) (p : Placeholder) :
    (answerChoice preset p).Answerable := by
  unfold answerChoice
  split
  · split
    · exact answerable_resolveChoice _
    · exact Draw.answerable_pure _
  · exact Draw.answerable_pure _

theorem answerable_linkedPass (r : Resolver) (text : Text) : (r.linkedPass text).Answerable := by
  rw [linkedPass_eq]
  refine Draw.Answerable.map _ ((asks_drawPair r _).answerable ?_)
  split <;> simp

theorem answerable_personPass (r : Resolver) (preset : Preset) (text : Text) :
    (r.personPass preset text).Answerable := by
  rw [personPass_eq]
  exact Draw.Answerable.map _ ((asks_drawPersons r _).answerable (by simp))

theorem answerable_choicePass (r : Resolver) (preset : Preset) (text : Text) :
    (r.choicePass preset text).Answerable :=
  answerable_rewriteM (answerable_answerChoice preset) _

theorem answerable_substitute (r : Resolver) (preset : Preset) (text : Text) :
    (r.substitute preset text).Answerable :=
  (answerable_linkedPass r text).bind fun _ => (answerable_personPass r preset _).bind fun _ =>
    (answerable_choicePass r preset _).map (r.fieldPass preset)

theorem answerable_resolve (r : Resolver) (preset : Preset) (text : Text) :
    (r.resolve preset text).Answerable :=
  (answerable_substitute r preset text).bind fun _ => Draw.answerable_pure _

end Resolver

end EventText
