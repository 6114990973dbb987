import EventText.Proofs.Text.Runs
import EventText.Yaml.Written

/-! Characters that are written as they are. Of the blanks only the space is one, of the breaks the
line feed and the two separators; so what is written is a stream as it stands. -/

namespace EventText.Yaml

section Characters

theorem isReadable_of_isPrintable {c : Char} (h : isPrintable c = true) : isReadable c = true := by
  simp only [isPrintable, isReadable, Bool.or_eq_true, Bool.and_eq_true] at h ⊢
  rcases h with ((h | h) | h) | h
  · simp [h]
  · simp [h]
  · simp [h.1]
  · simp [h]

theorem isGap_of_isPrintable {c : Char} (h : isPrintable c = true) : isGap c = (c == ' ') := by
  have htab : c ≠ '\t' := ne_of_class h rfl
  simp [isGap, htab]

theorem isWhite_of_isPrintable {c : Char} (h : isPrintable c = true) :
    isWhite c = (c == ' ' || isBreak c) := by
  rw [isWhite, isGap_of_isPrintable h]

theorem isPrintable_of_needsEscapes {text : Text} (h : needsEscapes text = false) :
    ∀ c ∈ text, isPrintable c = true := by
  rw [needsEscapes, Bool.or_eq_false_iff, Bool.not_eq_false'] at h
  exact List.all_eq_true.1 h.1

end Characters

section Streams

theorem unifyBreaks_eq {text : Text} (h : ∀ c ∈ text, isPrintable c = true) :
    unifyBreaks text = text := by
  induction text with
  | nil => rfl
  | cons c rest ih =>
    obtain ⟨hc, hrest⟩ := List.forall_mem_cons.1 h
    have hreturn : c ≠ '\r' := ne_of_class hc rfl
    have hnext : c ≠ '\x85' := ne_of_class hc rfl
    rw [unifyBreaks]
    · rw [ih hrest]
    · exact fun _ heq _ => hreturn heq
    · exact hreturn
    · exact hnext

/-- What is written is read as the stream that it is. -/
theorem stream?_eq {text : Text} (h : ∀ c ∈ text, isPrintable c = true) :
    stream? text = some text := by
  have hmark : dropOrderMark text = text := by
    cases text with
    | nil => rfl
    | cons c rest =>
      exact if_neg (ne_of_class (h c (List.mem_cons_self ..)) rfl)
  have hall : text.all isReadable = true :=
    List.all_eq_true.2 fun c hc => isReadable_of_isPrintable (h c hc)
  rw [stream?, hmark, if_pos hall, unifyBreaks_eq h]

end Streams

end EventText.Yaml
