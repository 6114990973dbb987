import EventText.WordReplacement
import Mathlib.Data.List.Forall2
import Mathlib.Logic.Basic

/-! The first whole word. A word stands at a place of a text when it is there in any case and both of its
ends are word boundaries; what decides is the text there and one character on each side. Replacing a word
takes the first such place, whatever else looks like the word before it (`replaceWord_cases`). -/

namespace EventText

/-- Exactly one of the characters next to each other is a word character; the end of a text is none. -/
def MeetAtBoundary (left right : Text) : Prop :=
  Xor (∃ c ∈ left.getLast?, isWordChar c = true) (∃ c ∈ right.head?, isWordChar c = true)

/-- `part` is the word, character by character and in any case, and it begins and ends at a word boundary
between the texts around it. -/
structure WholeWord (word before part after : Text) : Prop where
  sameFolded : List.Forall₂ (fun w c => foldCase w = foldCase c) word part
  begins : MeetAtBoundary before (part ++ after)
  ends : MeetAtBoundary (before ++ part) after

/-- The word stands nowhere in the text, which comes behind `front`. -/
def Lacks (word front text : Text) : Prop :=
  ∀ before part after, text = before ++ part ++ after → ¬ WholeWord word (front ++ before) part after

/-- In the text, which comes behind `front`, the word first stands at `part`. -/
structure FirstStands (word front text before part after : Text) : Prop where
  split : text = before ++ part ++ after
  whole : WholeWord word (front ++ before) part after
  first : ∀ before' part' after', text = before' ++ part' ++ after' →
    WholeWord word (front ++ before') part' after' → before.length ≤ before'.length

theorem isInWord_iff {neighbour : Option Char} :
    isInWord neighbour = true ↔ ∃ c ∈ neighbour, isWordChar c = true := by
  cases neighbour <;> simp [isInWord]

theorem isWordBoundary_iff {left right : Text} :
    isWordBoundary left.getLast? right.head? = true ↔ MeetAtBoundary left right := by
  rw [MeetAtBoundary, ← isInWord_iff, ← isInWord_iff, isWordBoundary, bne_iff_ne]
  cases isInWord left.getLast? <;> cases isInWord right.head? <;> simp [Xor]

theorem dropFolded?_eq_some_iff {word text after : Text} :
    dropFolded? word text = some after ↔
      ∃ part, text = part ++ after ∧ List.Forall₂ (fun w c => foldCase w = foldCase c) word part := by
  induction word generalizing text with
  | nil => simp [dropFolded?, eq_comm]
  | cons w word ih =>
    cases text with
    | nil => simp [dropFolded?, List.forall₂_cons_left_iff]
    | cons c text =>
      by_cases hc : foldCase w = foldCase c
      · rw [dropFolded?, if_pos (by simpa [sameFolded] using hc), ih]
        constructor
        · rintro ⟨part, rfl, hpart⟩
          exact ⟨c :: part, rfl, .cons hc hpart⟩
        · rintro ⟨part, htext, hpart⟩
          obtain ⟨d, part, -, hrest, rfl⟩ := List.forall₂_cons_left_iff.1 hpart
          exact ⟨part, (List.cons.inj htext).2, hrest⟩
      · rw [dropFolded?, if_neg (by simpa [sameFolded] using hc)]
        refine iff_of_false (by simp) ?_
        rintro ⟨part, htext, hpart⟩
        obtain ⟨d, part, hd, -, rfl⟩ := List.forall₂_cons_left_iff.1 hpart
        obtain rfl := (List.cons.inj htext).1
        exact hc hd

theorem getLast?_take_or {word front part after : Text} (hlength : word.length = part.length) :
    ((part ++ after).take word.length).getLast?.or front.getLast? = (front ++ part).getLast? := by
  rw [hlength, List.take_left, List.getLast?_append]

/-- The word is taken off the front of a text exactly where it is a whole word. -/
theorem dropWord?_eq_some_iff {word front text after : Text} :
    dropWord? word front.getLast? text = some after ↔
      ∃ part, text = part ++ after ∧ WholeWord word front part after := by
  constructor
  · intro h
    unfold dropWord? at h
    split at h
    · cases h
    · rename_i found hfolded
      obtain ⟨part, rfl, hpart⟩ := dropFolded?_eq_some_iff.1 hfolded
      rw [getLast?_take_or hpart.length_eq] at h
      split at h
      · rename_i hboundaries
        obtain rfl := Option.some.inj h
        rw [Bool.and_eq_true, isWordBoundary_iff, isWordBoundary_iff] at hboundaries
        exact ⟨part, rfl, hpart, hboundaries.1, hboundaries.2⟩
      · cases h
  · rintro ⟨part, rfl, hpart, hbegins, hends⟩
    have hfolded : dropFolded? word (part ++ after) = some after :=
      dropFolded?_eq_some_iff.2 ⟨part, rfl, hpart⟩
    rw [← isWordBoundary_iff] at hbegins hends
    simp only [dropWord?, hfolded, getLast?_take_or hpart.length_eq, hbegins, hends, Bool.and_self,
      ↓reduceIte]

theorem dropWord?_eq_none_iff {word front text : Text} :
    dropWord? word front.getLast? text = none ↔
      ∀ part after, text = part ++ after → ¬ WholeWord word front part after := by
  rw [Option.eq_none_iff_forall_ne_some]
  constructor
  · intro h part after htext hwhole
    exact h after (dropWord?_eq_some_iff.2 ⟨part, htext, hwhole⟩)
  · intro h after hsome
    obtain ⟨part, htext, hwhole⟩ := dropWord?_eq_some_iff.1 hsome
    exact h part after htext hwhole

section Steps

variable {word front rest : Text} {c : Char}

/-- A place of a text is its front or a place behind its first character. -/
theorem wholeWord_cons_cases {before part after : Text} (htext : c :: rest = before ++ part ++ after)
    (hwhole : WholeWord word (front ++ before) part after)
    (hfront : dropWord? word front.getLast? (c :: rest) = none) :
    ∃ more, before = c :: more ∧ rest = more ++ part ++ after ∧
      WholeWord word (front ++ [c] ++ more) part after := by
  cases before with
  | nil =>
    rw [List.append_nil] at hwhole
    exact absurd hwhole (dropWord?_eq_none_iff.1 hfront part after htext)
  | cons d more =>
    obtain ⟨rfl, hrest⟩ := List.cons.inj htext
    rw [List.append_cons] at hwhole
    exact ⟨more, rfl, hrest, hwhole⟩

theorem FirstStands.here {text part after : Text} (htext : text = part ++ after)
    (hwhole : WholeWord word front part after) : FirstStands word front text [] part after where
  split := htext
  whole := by rwa [List.append_nil]
  first := fun _ _ _ _ _ => Nat.zero_le _

theorem Lacks.cons (hfront : dropWord? word front.getLast? (c :: rest) = none)
    (h : Lacks word (front ++ [c]) rest) : Lacks word front (c :: rest) := by
  intro before part after htext hwhole
  obtain ⟨more, -, hrest, hwhole⟩ := wholeWord_cons_cases htext hwhole hfront
  exact h more part after hrest hwhole

theorem FirstStands.cons {before part after : Text}
    (hfront : dropWord? word front.getLast? (c :: rest) = none)
    (h : FirstStands word (front ++ [c]) rest before part after) :
    FirstStands word front (c :: rest) (c :: before) part after where
  split := congrArg (c :: ·) h.split
  whole := by
    rw [List.append_cons]
    exact h.whole
  first := by
    intro before' part' after' htext hwhole
    obtain ⟨more, rfl, hrest, hwhole⟩ := wholeWord_cons_cases htext hwhole hfront
    exact Nat.succ_le_succ (h.first more part' after' hrest hwhole)

end Steps

theorem replaceWordAfter_cases (word replacement front text : Text) :
    (Lacks word front text ∧ replaceWordAfter word replacement front.getLast? text = text) ∨
    ∃ before part after, FirstStands word front text before part after ∧
      replaceWordAfter word replacement front.getLast? text = before ++ replacement ++ after := by
  -- the part of the text already passed is general: its last character is all that the search keeps
  induction text generalizing front with
  | nil =>
    cases hfront : dropWord? word front.getLast? [] with
    | none =>
      refine .inl ⟨?_, by rw [replaceWordAfter, hfront]; rfl⟩
      intro before part after htext hwhole
      obtain ⟨hboth, rfl⟩ := List.append_eq_nil_iff.1 htext.symm
      obtain ⟨rfl, rfl⟩ := List.append_eq_nil_iff.1 hboth
      rw [List.append_nil] at hwhole
      exact dropWord?_eq_none_iff.1 hfront [] [] rfl hwhole
    | some after =>
      obtain ⟨part, htext, hwhole⟩ := dropWord?_eq_some_iff.1 hfront
      exact .inr ⟨[], part, after, .here htext hwhole, by rw [replaceWordAfter, hfront]; rfl⟩
  | cons c rest ih =>
    cases hfront : dropWord? word front.getLast? (c :: rest) with
    | some after =>
      obtain ⟨part, htext, hwhole⟩ := dropWord?_eq_some_iff.1 hfront
      exact .inr ⟨[], part, after, .here htext hwhole, by rw [replaceWordAfter, hfront]; rfl⟩
    | none =>
      have hstep : replaceWordAfter word replacement front.getLast? (c :: rest) =
          c :: replaceWordAfter word replacement (front ++ [c]).getLast? rest := by
        rw [replaceWordAfter, hfront, List.getLast?_concat]
      rw [hstep]
      rcases ih (front ++ [c]) with ⟨hlacks, hsame⟩ | ⟨before, part, after, hfirst, hreplaced⟩
      · exact .inl ⟨hlacks.cons hfront, by rw [hsame]⟩
      · exact .inr ⟨c :: before, part, after, hfirst.cons hfront, by rw [hreplaced]; rfl⟩

/-- Either the word stands nowhere in the text and the text is left as it is, or the replacement takes the
place where the word first stands and all around it is left. -/
theorem replaceWord_cases (word replacement text : Text) :
    (Lacks word [] text ∧ replaceWord word replacement text = text) ∨
    ∃ before part after, FirstStands word [] text before part after ∧
      replaceWord word replacement text = before ++ replacement ++ after :=
  replaceWordAfter_cases word replacement [] text

-- letters with accents and low lines go on with a word, emoji do not
example : replaceWord "Dinner".toList "Lunch".toList "Dinneré, _dinner or 🍴DINNER Date".toList =
    "Dinneré, _dinner or 🍴Lunch Date".toList := by
  decide +kernel

end EventText
