import EventText.Proofs.Bytes.Resolving
import EventText.Proofs.Template.Weaving

/-! Weaving by bytes. The gaps of a text are what the spans of its placeholders leave when it is cut at
them. Rewriting asks for an answer to each placeholder, once and in order, and is the gaps in turn with
the answers (`rewriteM_eq_weave`). -/

namespace EventText.Template

/-- What the spans leave of the text from byte `cursor` on: what stands before each of them, and behind
the last. A cut that fails gives `none`. -/
def gapsAt? (text : Text) (cursor : Nat) : List (Nat × Nat × Placeholder) → Option (List Text)
  | [] => do
    return [← text.dropBytes? cursor]
  | (start, stop, _) :: rest => do
    let gap ← text.slice? cursor start
    return gap :: (← gapsAt? text stop rest)

theorem placeholders_locatedFrom (start : Nat) (ps : List Piece) :
    (locatedFrom start ps).map (·.2.2) = placeholders ps := by
  induction ps generalizing start with
  | nil => rfl
  | cons piece rest ih =>
    cases piece with
    | letter c => exact ih _
    | token p => exact congrArg (p :: ·) (ih _)

/-- The text is `before`, which lies before the cursor, then `pending`, and then the pieces. -/
theorem gapsAt?_locatedFrom (before pending : Text) (ps : List Piece) :
    gapsAt? (before ++ pending ++ written ps) before.utf8Length
        (locatedFrom (before ++ pending).utf8Length ps) =
      some ((gaps ps).modifyHead (pending ++ ·)) := by
  induction ps generalizing before pending with
  | nil => simp [gapsAt?, locatedFrom, gaps, Text.dropBytes?_append]
  | cons piece rest ih =>
    cases piece with
    | letter c =>
      have hrest := ih before (pending ++ [c])
      rw [← List.append_assoc, Text.utf8Length_append] at hrest
      simpa [locatedFrom, gaps, Function.comp_def] using hrest
    | token p =>
      have hrest := ih (before ++ pending ++ p.written) []
      simp only [List.append_nil, Text.utf8Length_append _ p.written] at hrest
      have hgap : Text.slice? (before ++ pending ++ (p.written ++ written rest)) before.utf8Length
          (before ++ pending).utf8Length = some pending :=
        Text.slice?_eq_some_iff.2 ⟨before, _, rfl, rfl, Text.utf8Length_append _ _⟩
      obtain ⟨gap, others, hgaps⟩ := List.exists_cons_of_ne_nil (gaps_ne_nil rest)
      rw [hgaps, List.modifyHead_cons, List.nil_append, List.append_assoc] at hrest
      rw [locatedFrom, written_token, gapsAt?, hgap]
      simp only [Option.bind_eq_bind, Option.bind_some, hrest, gaps, hgaps, List.modifyHead_cons,
        List.append_nil]
      rfl

section Lawful

variable {m : Type → Type} [Monad m] [LawfulMonad m]

/-- Rewriting gives the gaps of the text in turn with an answer for each placeholder, or with the
placeholder as it stands where it got none. Every placeholder of the text is offered once, in order, and
nothing else is. Rewriting at the bytes of the spans, with a cursor that stays behind where there was no
answer, is the same. -/
theorem rewriteM_eq_weave (grammar : Grammar) (offer : Placeholder → m (Option Text)) (text : Text) :
    let spans := located (grammar.pieces text)
    let found := spans.map (·.2.2)
    ∃ between, gapsAt? text 0 spans = some between ∧ between.length = found.length + 1 ∧
      weave between (found.map Placeholder.written) = text ∧
      rewriteM offer (grammar.pieces text) = (do
        let answers ← found.mapM offer
        return weave between (answered found answers)) ∧
      passAt grammar offer text = some <$> rewriteM offer (grammar.pieces text) := by
  intro spans found
  have hfound : found = placeholders (grammar.pieces text) := placeholders_locatedFrom 0 _
  have htext := grammar.written_pieces text
  have hgaps := gapsAt?_locatedFrom [] [] (grammar.pieces text)
  obtain ⟨gap, others, hcons⟩ := List.exists_cons_of_ne_nil (gaps_ne_nil (grammar.pieces text))
  rw [List.nil_append, List.nil_append, htext, hcons, List.modifyHead_cons, List.nil_append,
    ← hcons] at hgaps
  rw [hfound]
  refine ⟨gaps (grammar.pieces text), hgaps, length_gaps _, ?_, ?_, passAt_eq grammar offer text⟩
  · rw [weave_written, htext]
  · rw [rewriteM_pieces, bind_pure_comp]

end Lawful

def answerB (p : Placeholder) : StateM (List Text) (Option Text) := do
  modify (· ++ [p.key])
  return if p.hasKey ['B'] then some "[A]".toList else none

theorem rewriteM_eq_weave_answerB :
    let text := "é[A] [[b:[x][C]]".toList
    let between := ["é".toList, " [".toList, [], "]".toList]
    gapsAt? text 0 (located (Grammar.brackets.pieces text)) = some between ∧
    (rewriteM answerB (Grammar.brackets.pieces text)).run [] =
      (weave between ["[A]".toList, "[A]".toList, "[C]".toList],
        ["A".toList, "b".toList, "C".toList]) := by
  intro text between
  have hpieces : Grammar.brackets.pieces text =
      [.letter 'é', .token ⟨['A'], none⟩, .letter ' ', .letter '[', .token ⟨['b'], some "[x".toList⟩,
        .token ⟨['C'], none⟩, .letter ']'] :=
    bracketPieces_eq_iff.2 ⟨by decide, by decide⟩
  have hbetween : gapsAt? text 0 (located (Grammar.brackets.pieces text)) = some between := by
    rw [hpieces]
    decide
  obtain ⟨cut, hcut, -, -, hrun, -⟩ := rewriteM_eq_weave .brackets answerB text
  obtain rfl : cut = between := Option.some.inj (hcut.symm.trans hbetween)
  refine ⟨hbetween, ?_⟩
  rw [hrun, hpieces]
  rfl

end EventText.Template
