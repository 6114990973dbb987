import EventText.Pattern
import Mathlib.Data.List.Basic
import Mathlib.Data.List.TakeWhile

/-! Searching for a pattern. A run that nothing can follow but what ends it never gives a character
back (`attemptRun_eq`). A pattern that takes something cuts a text in one way only: no match begins
at a letter, and each hit is the match at its place (`scan_eq_iff`). -/

namespace EventText

namespace Pattern

theorem attemptRun_eq (accepts : Char → Bool) (next : Text → Option α)
    (hstop : ∀ c rest, accepts c = true → next (c :: rest) = none) (text : Text) :
    attemptRun accepts next text = next (text.dropWhile accepts) := by
  induction text with
  | nil => rfl
  | cons c rest ih =>
    by_cases hc : accepts c = true
    · rw [List.dropWhile_cons_of_pos hc, ← ih, attemptRun, if_pos hc]
      cases h : attemptRun accepts next rest with
      | none => exact hstop c rest hc
      | some found => rfl
    · rw [List.dropWhile_cons_of_neg hc, attemptRun, if_neg hc]

theorem take_length_sub_dropWhile (p : Char → Bool) (text : Text) :
    text.take (text.length - (text.dropWhile p).length) = text.takeWhile p := by
  have hsplit := List.takeWhile_append_dropWhile (p := p) (l := text)
  have hlength : text.length - (text.dropWhile p).length = (text.takeWhile p).length := by
    have := congrArg List.length hsplit
    rw [List.length_append] at this
    omega
  rw [hlength]
  calc text.take (text.takeWhile p).length
      = (text.takeWhile p ++ text.dropWhile p).take (text.takeWhile p).length := by rw [hsplit]
    _ = text.takeWhile p := List.take_left

theorem attempt_literal (literal text : Text) (next : Captures → Text → Option α)
    (captures : Captures) :
    (Pattern.literal literal).attempt next captures text =
      (literal.isPrefixOf? text).bind (next captures) := by
  induction literal generalizing text with
  | nil => cases text <;> rfl
  | cons c literal ih =>
    cases text with
    | nil => rfl
    | cons d text =>
      by_cases hc : c = d
      · simp [Pattern.literal, attempt, List.isPrefixOf?, hc, ih]
      · simp [Pattern.literal, attempt, List.isPrefixOf?, hc, Ne.symm hc]

/-- Every match takes something from the front of the text. -/
def Consumes (pattern : Pattern) : Prop :=
  ∀ text captures after, pattern.matchFront? text = some (captures, after) →
    ∃ taken, taken ≠ [] ∧ text = taken ++ after

end Pattern

def Found.written (parts : List Found) : Text :=
  parts.flatMap Found.text

namespace Found

@[simp] theorem written_nil : written [] = [] := rfl

@[simp] theorem written_letter (c : Char) (rest : List Found) :
    written (.letter c :: rest) = c :: written rest := rfl

@[simp] theorem written_hit (text : Text) (captures : Captures) (rest : List Found) :
    written (.hit text captures :: rest) = text ++ written rest := rfl

theorem written_letters (text : Text) (rest : List Found) :
    written (text.map .letter ++ rest) = text ++ written rest := by
  induction text with
  | nil => rfl
  | cons c text ih => rw [List.map_cons, List.cons_append, written_letter, ih, List.cons_append]

end Found

namespace Pattern

open Found

inductive Searched (pattern : Pattern) : List Found → Prop where
  | nil : Searched pattern []
  | letter {c : Char} {rest : List Found} :
      pattern.matchFront? (c :: written rest) = none → Searched pattern rest →
        Searched pattern (.letter c :: rest)
  | hit {text : Text} {captures : Captures} {rest : List Found} :
      text ≠ [] → pattern.matchFront? (text ++ written rest) = some (captures, written rest) →
        Searched pattern rest → Searched pattern (.hit text captures :: rest)

variable {pattern : Pattern}

theorem scan_of_none {c : Char} {rest : Text} (h : pattern.matchFront? (c :: rest) = none) :
    pattern.scan (c :: rest) = .letter c :: pattern.scan rest := by
  rw [scan, h]

theorem scan_of_some {taken after : Text} {captures : Captures} (htaken : taken ≠ [])
    (h : pattern.matchFront? (taken ++ after) = some (captures, after)) :
    pattern.scan (taken ++ after) = .hit taken captures :: pattern.scan after := by
  obtain ⟨c, rest, rfl⟩ := List.exists_cons_of_ne_nil htaken
  have htake : (c :: (rest ++ after)).take ((c :: (rest ++ after)).length - after.length) =
      c :: rest := by
    rw [← List.cons_append, List.length_append, Nat.add_sub_cancel, List.take_left]
  rw [List.cons_append] at h ⊢
  rw [scan, h]
  simp only [htake]
  rw [dif_pos (by simp only [List.length_cons, List.length_append]; omega)]

/-- A search cuts its text at the matches. -/
theorem searched_scan (h : pattern.Consumes) (text : Text) :
    pattern.Searched (pattern.scan text) ∧ written (pattern.scan text) = text := by
  induction hn : text.length using Nat.strong_induction_on generalizing text with
  | _ n ih =>
    subst hn
    cases text with
    | nil =>
      rw [scan]
      exact ⟨.nil, rfl⟩
    | cons c rest =>
      cases hfront : pattern.matchFront? (c :: rest) with
      | none =>
        obtain ⟨hrest, hwritten⟩ := ih rest.length (by simp) rest rfl
        rw [scan_of_none hfront, written_letter, hwritten]
        exact ⟨.letter (by rwa [hwritten]) hrest, rfl⟩
      | some found =>
        obtain ⟨captures, after⟩ := found
        obtain ⟨taken, htaken, htext⟩ := h _ _ _ hfront
        rw [htext] at hfront ⊢
        have hshorter : after.length < (taken ++ after).length := by
          have := List.length_pos_iff.2 htaken
          rw [List.length_append]
          omega
        obtain ⟨hrest, hwritten⟩ := ih after.length (by rwa [htext]) after rfl
        rw [scan_of_some htaken hfront, written_hit, hwritten]
        exact ⟨.hit htaken (by rwa [hwritten]) hrest, rfl⟩

theorem Searched.scan_written {parts : List Found} (h : pattern.Searched parts) :
    pattern.scan (written parts) = parts := by
  induction h with
  | nil => rw [written_nil, scan]
  | letter hnone _ ih => rw [written_letter, scan_of_none hnone, ih]
  | hit hne hsome _ ih => rw [written_hit, scan_of_some hne hsome, ih]

theorem scan_eq_iff (h : pattern.Consumes) {text : Text} {parts : List Found} :
    pattern.scan text = parts ↔ pattern.Searched parts ∧ written parts = text := by
  constructor
  · rintro rfl
    exact searched_scan h text
  · rintro ⟨hparts, rfl⟩
    exact hparts.scan_written

end Pattern

end EventText
