import EventText.Proofs.Draw.Course
import EventText.Proofs.Template.Cut

/-! Splicing answers into a cut. An answer is inert when it has no opening bracket and does not
begin as the rest of a placeholder could go on. Putting inert answers in place of placeholders turns
a cut into a cut (`Spliced.cut`): no placeholder is made, lost or changed, whatever brackets stand
around. So a second pass over the text of a first one sees the placeholders that the first one left. -/

namespace EventText

/-- Text that neither opens a placeholder nor carries on one that was opened before it. -/
structure Inert (text : Text) : Prop where
  no_bracket : '[' ∉ text
  head : ∃ c rest, text = c :: rest ∧ isKeyChar c = false ∧ c ≠ ':' ∧ c ≠ ']'

namespace Template

theorem written_append (a b : List Piece) : written (a ++ b) = written a ++ written b :=
  List.flatMap_append

theorem written_letters (text : Text) : written (text.map .letter) = text := by
  induction text with
  | nil => rfl
  | cons c rest ih => rw [List.map_cons, written_letter, ih]

theorem placeholders_letters (text : Text) (rest : List Piece) :
    placeholders (text.map .letter ++ rest) = placeholders rest := by
  induction text with
  | nil => rfl
  | cons c text ih => rw [List.map_cons, List.cons_append, placeholders_letter, ih]

/-- Pieces with answers put in place of placeholders; `allowed` says which placeholder may get which
answer, and which may be left. -/
inductive Spliced (allowed : Placeholder → Option Text → Prop) : List Piece → List Piece → Prop where
  | nil : Spliced allowed [] []
  | letter {c : Char} {ps qs : List Piece} :
      Spliced allowed ps qs → Spliced allowed (.letter c :: ps) (.letter c :: qs)
  | keep {p : Placeholder} {ps qs : List Piece} :
      allowed p none → Spliced allowed ps qs → Spliced allowed (.token p :: ps) (.token p :: qs)
  | put {p : Placeholder} {text : Text} {ps qs : List Piece} :
      allowed p (some text) → Spliced allowed ps qs →
        Spliced allowed (.token p :: ps) (text.map .letter ++ qs)

/-- Where it is the placeholder alone that says whether it gets an answer, the others are left. -/
theorem Spliced.placeholders_eq_filter {allowed : Placeholder → Option Text → Prop}
    {ps qs : List Piece} (h : Spliced allowed ps qs) {left : Placeholder → Bool}
    (hkeep : ∀ p, allowed p none → left p = true)
    (hput : ∀ p text, allowed p (some text) → left p = false) :
    placeholders qs = (placeholders ps).filter left := by
  induction h with
  | nil => rfl
  | letter _ ih => exact ih
  | keep hp _ ih =>
    rw [placeholders_token, placeholders_token, List.filter_cons_of_pos (hkeep _ hp), ih]
  | put hp _ ih =>
    have hnot := hput _ _ hp
    rw [placeholders_letters, placeholders_token, List.filter_cons_of_neg (by simp [hnot]), ih]

section Closing

theorem closesPayload_key {key : Text} (hkey : ∀ c ∈ key, isKeyChar c = true) (rest : Text) :
    closesPayload (key ++ rest) = closesPayload rest := by
  refine closesPayload_append (fun c hc => ?_) rest
  have h1 : c ≠ ']' := isKeyChar_ne (hkey c hc) (by decide)
  have h2 : c ≠ '\n' := isKeyChar_ne (hkey c hc) (by decide)
  simp [isPayloadChar, h1, h2]

/-- An open payload that comes to a placeholder ends with it. -/
theorem closesPayload_written {p : Placeholder} (hp : p.WellFormed) (rest : Text) :
    closesPayload (p.written ++ rest) = true := by
  obtain ⟨key, payload⟩ := p
  obtain ⟨-, hkey⟩ := (isValidKey_iff key).1 hp.key_valid
  cases payload with
  | none => simp [Placeholder.written, closesPayload, isPayloadChar, closesPayload_key hkey]
  | some payload =>
    simp [Placeholder.written, closesPayload, isPayloadChar, closesPayload_key hkey,
      closesPayload_append (hp.payload_all payload rfl)]

/-- An open key that comes to a placeholder is none. -/
theorem closesKey_written (p : Placeholder) (rest : Text) :
    closesKey (p.written ++ rest) = false := by
  obtain ⟨inner, hinner⟩ := p.exists_written_eq_cons
  rw [hinner]
  rfl

theorem closesKey_inert {text : Text} (h : Inert text) (rest : Text) :
    closesKey (text ++ rest) = false := by
  obtain ⟨c, after, rfl, hkey, hcolon, hbracket⟩ := h.head
  simp [closesKey, hkey, hcolon, hbracket]

variable {allowed : Placeholder → Option Text → Prop} {ps qs : List Piece}

theorem Spliced.closesPayload (h : Spliced allowed ps qs)
    (hwf : ∀ p ∈ placeholders ps, p.WellFormed) (hqs : closesPayload (written qs) = true) :
    EventText.closesPayload (written ps) = true := by
  induction h with
  | nil => exact hqs
  | letter _ ih =>
    simp only [written_letter, EventText.closesPayload, Bool.or_eq_true, Bool.and_eq_true] at hqs ⊢
    exact hqs.imp_right fun h => ⟨h.1, ih hwf h.2⟩
  -- a placeholder of `ps` closes the payload by itself, whatever was put in its place
  | keep _ _ _ => exact closesPayload_written (hwf _ (List.mem_cons_self ..)) _
  | put _ _ _ => exact closesPayload_written (hwf _ (List.mem_cons_self ..)) _

theorem Spliced.closesKey (h : Spliced allowed ps qs)
    (hinert : ∀ p ∈ placeholders ps, ∀ text, allowed p (some text) → Inert text)
    (hwf : ∀ p ∈ placeholders ps, p.WellFormed) (hqs : closesKey (written qs) = true) :
    EventText.closesKey (written ps) = true := by
  induction h with
  | nil => exact hqs
  | letter hrest ih =>
    simp only [written_letter, EventText.closesKey, Bool.or_eq_true, Bool.and_eq_true] at hqs ⊢
    rcases hqs with (hqs | hqs) | hqs
    · exact .inl (.inl hqs)
    · exact .inl (.inr ⟨hqs.1, hrest.closesPayload hwf hqs.2⟩)
    · exact .inr ⟨hqs.1, ih hinert hwf hqs.2⟩
  | keep _ _ _ =>
    rw [written_token, closesKey_written] at hqs
    cases hqs
  | put hput _ _ =>
    rw [written_append, written_letters, closesKey_inert (hinert _ (List.mem_cons_self ..) _ hput)] at hqs
    cases hqs

theorem Spliced.opensPlaceholder (h : Spliced allowed ps qs)
    (hinert : ∀ p ∈ placeholders ps, ∀ text, allowed p (some text) → Inert text)
    (hwf : ∀ p ∈ placeholders ps, p.WellFormed) (hqs : opensPlaceholder (written qs) = true) :
    EventText.opensPlaceholder (written ps) = true := by
  cases h with
  | nil => exact hqs
  | letter hrest =>
    simp only [written_letter, EventText.opensPlaceholder, Bool.and_eq_true] at hqs ⊢
    exact ⟨hqs.1, hrest.closesKey hinert hwf hqs.2⟩
  | @keep p _ _ _ _ =>
    obtain ⟨inner, hinner⟩ := p.exists_written_eq_cons
    rw [written_token, hinner] at hqs
    cases hqs
  | put hput _ =>
    obtain ⟨c, after, htext, hkey, -⟩ := (hinert _ (List.mem_cons_self ..) _ hput).head
    rw [written_append, written_letters, htext] at hqs
    simp [EventText.opensPlaceholder, hkey] at hqs

theorem Cut.letters {text : Text} (h : '[' ∉ text) {rest : List Piece} (hrest : Cut rest) :
    Cut (text.map .letter ++ rest) := by
  induction text with
  | nil => exact hrest
  | cons c text ih =>
    obtain ⟨hne, htext⟩ := List.ne_and_not_mem_of_not_mem_cons h
    exact .letter (fun hc => absurd hc.symm hne) (ih htext)

theorem Spliced.cut (h : Spliced allowed ps qs) (hcut : Cut ps)
    (hinert : ∀ p ∈ placeholders ps, ∀ text, allowed p (some text) → Inert text) : Cut qs := by
  induction h with
  | nil => exact .nil
  | letter hrest ih =>
    cases hcut with
    | letter hopen hcut =>
      refine .letter (fun hc => ?_) (ih hcut hinert)
      rw [Bool.eq_false_iff]
      intro hqs
      rw [hrest.opensPlaceholder hinert hcut.wellFormed hqs] at hopen
      cases hopen hc
  | keep _ _ ih =>
    cases hcut with
    | token hp hcut => exact .token hp (ih hcut fun p hp => hinert p (List.mem_cons_of_mem _ hp))
  | put hput _ ih =>
    cases hcut with
    | token hp hcut =>
      exact .letters (hinert _ (List.mem_cons_self ..) _ hput).no_bracket
        (ih hcut fun p hp => hinert p (List.mem_cons_of_mem _ hp))

end Closing

end Template

end EventText
