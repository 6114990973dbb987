import EventText.Text.Basic
import EventText.Text.Word
import Mathlib.Data.List.TakeWhile

/-! Trimming: what is left is part of the text, and only blanks are lost at its ends. Blanks are
neither letters nor numbers. -/

namespace EventText

namespace Text

theorem trimStart_subset (text : Text) : text.trimStart ⊆ text :=
  (List.dropWhile_sublist _).subset

theorem trimEnd_subset (text : Text) : text.trimEnd ⊆ text := fun c hc => by
  have h := (List.dropWhile_sublist isBlank (l := text.reverse)).subset (List.mem_reverse.1 hc)
  exact List.mem_reverse.1 h

theorem trim_subset (text : Text) : text.trim ⊆ text :=
  List.Subset.trans (trimEnd_subset _) (trimStart_subset text)

theorem trimEnd_append_blanks {back : Text} (h : ∀ c ∈ back, isBlank c = true) (text : Text) :
    (text ++ back).trimEnd = text.trimEnd := by
  have hback : ∀ c ∈ back.reverse, isBlank c = true := fun c hc => h c (List.mem_reverse.1 hc)
  rw [trimEnd, List.reverse_append, List.dropWhile_append_of_pos hback, trimEnd]

theorem trim_append_blanks {back : Text} (h : ∀ c ∈ back, isBlank c = true) (text : Text) :
    (text ++ back).trim = text.trim := by
  unfold trim trimStart
  rw [List.dropWhile_append]
  split
  · rename_i hempty
    rw [List.dropWhile_eq_nil_iff.2 h, List.isEmpty_iff.1 hempty]
  · exact trimEnd_append_blanks h _

theorem trimStart_eq_append (text : Text) :
    text.trimStart = text.trim ++ (text.trimStart.reverse.takeWhile isBlank).reverse := by
  have hsplit := List.takeWhile_append_dropWhile (p := isBlank) (l := text.trimStart.reverse)
  have hreverse := congrArg List.reverse hsplit
  rw [List.reverse_append, List.reverse_reverse] at hreverse
  exact hreverse.symm

/-- A text is its trimmed form between blanks. -/
theorem exists_blanks_trim (text : Text) :
    ∃ front back, (∀ c ∈ front, isBlank c = true) ∧ (∀ c ∈ back, isBlank c = true) ∧
      text = front ++ (text.trim ++ back) := by
  refine ⟨text.takeWhile isBlank, (text.trimStart.reverse.takeWhile isBlank).reverse, ?_, ?_, ?_⟩
  · intro c hc
    exact List.mem_takeWhile_imp hc
  · intro c hc
    exact List.mem_takeWhile_imp (List.mem_reverse.1 hc)
  · rw [← trimStart_eq_append]
    exact List.takeWhile_append_dropWhile.symm

theorem trimStart_trim (text : Text) : text.trim.trimStart = text.trim := by
  cases h : text.trim with
  | nil => rfl
  | cons c rest =>
    have hfirst := List.head?_dropWhile_not isBlank text
    rw [← trimStart, trimStart_eq_append, h] at hfirst
    have hc : isBlank c = false := hfirst
    rw [trimStart, List.dropWhile_cons_of_neg (by simp [hc])]

theorem mem_trim {c : Char} {text : Text} (hc : c ∈ text) (hblank : isBlank c = false) :
    c ∈ text.trim := by
  obtain ⟨front, back, hfront, hback, htext⟩ := exists_blanks_trim text
  rw [htext, List.mem_append, List.mem_append] at hc
  rcases hc with hc | hc | hc
  · rw [hfront c hc] at hblank
    cases hblank
  · exact hc
  · rw [hback c hc] at hblank
    cases hblank

def IsVisible (text : Text) : Prop :=
  ∃ c ∈ text, isBlank c = false

theorem IsVisible.mono {a b : Text} (h : a.IsVisible) (hab : a ⊆ b) : b.IsVisible := by
  obtain ⟨c, hc, hblank⟩ := h
  exact ⟨c, hab hc, hblank⟩

theorem isVisible_trim {text : Text} (h : text.trim ≠ []) : text.trim.IsVisible := by
  obtain ⟨c, rest, hcons⟩ := List.exists_cons_of_ne_nil h
  have hfirst := List.head?_dropWhile_not isBlank text.trim
  rw [← trimStart, trimStart_trim, hcons] at hfirst
  rw [hcons]
  exact ⟨c, List.mem_cons_self, hfirst⟩

theorem trim_ne_nil_iff {text : Text} : text.trim ≠ [] ↔ text.IsVisible := by
  constructor
  · intro h
    exact (isVisible_trim h).mono (trim_subset text)
  · rintro ⟨c, hc, hblank⟩
    exact List.ne_nil_of_mem (mem_trim hc hblank)

end Text

def CodeRanges.codes (set : CodeRanges) : List Nat :=
  set.ranges.flatMap fun range => List.range' range.1 (range.2 + 1 - range.1)

theorem CodeRanges.mem_codes {set : CodeRanges} {c : Char} (h : set.holds c = true) :
    c.toNat ∈ set.codes := by
  obtain ⟨ranges⟩ := set
  simp only [CodeRanges.holds, CodeRanges.codes] at h ⊢
  induction ranges with
  | nil => cases h
  | cons range rest ih =>
    obtain ⟨first, last⟩ := range
    simp only [holdsIn, Bool.and_eq_true, Bool.or_eq_true, decide_eq_true_eq] at h
    rw [List.flatMap_cons, List.mem_append]
    rcases h.2 with hlast | hrest
    · refine .inl (List.mem_range'_1.2 ?_)
      omega
    · exact .inr (ih hrest)

theorem isAlphanumeric_of_isBlank {c : Char} (h : isBlank c = true) : isAlphanumeric c = false := by
  have hblanks : ∀ code ∈ blanks.codes,
      (holdsIn alphabetic.ranges code || holdsIn numeric.ranges code) = false := by decide +kernel
  exact hblanks _ (CodeRanges.mem_codes h)

end EventText
