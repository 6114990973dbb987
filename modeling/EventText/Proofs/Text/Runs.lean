import EventText.Text.Basic
import Mathlib.Data.List.Basic
import Mathlib.Data.Nat.Digits.Defs

/-! Runs of characters: where a run ends, and the runs of digits that numbers are written in. Only zero
is written with a zero in front. -/

namespace EventText

/-- A member of a class of characters is none of the others. -/
theorem ne_of_class {p : Char → Bool} {c d : Char} (hc : p c = true) (hd : p d = false) : c ≠ d := by
  rintro rfl
  rw [hd] at hc
  cases hc

/-- A member of a class is none of the marks outside of it. -/
theorem not_mem_of_class {p : Char → Bool} {c : Char} {marks : Text} (hc : p c = true)
    (hmarks : marks.any p = false) : c ∉ marks :=
  fun hmem => List.any_eq_false.1 hmarks c hmem hc

theorem contains_eq_false_of_class {p : Char → Bool} {c : Char} {marks : Text} (hc : p c = true)
    (hmarks : marks.any p = false) : marks.contains c = false := by
  rw [Bool.eq_false_iff]
  exact fun hcontains => not_mem_of_class hc hmarks (List.contains_iff_mem.1 hcontains)

section Digits

theorem toNat_of_isDigit {c : Char} (h : c.isDigit = true) : 48 ≤ c.toNat ∧ c.toNat ≤ 57 := by
  simp only [Char.isDigit, Bool.and_eq_true, decide_eq_true_eq] at h
  exact h

theorem toNat_sub_lt_of_isDigit {c : Char} (h : c.isDigit = true) : c.toNat - '0'.toNat < 10 := by
  have hnine := (toNat_of_isDigit h).2
  have hzero : '0'.toNat = 48 := rfl
  omega

end Digits

namespace Text

section Runs

variable {p : Char → Bool} {run rest : Text}

theorem head?_cons_false {c : Char} (h : p c = false) (rest : Text) :
    ∀ d ∈ (c :: rest).head?, p d = false := by
  intro d hd
  rwa [← Option.some.inj hd]

theorem takeWhile_exact (hrun : ∀ c ∈ run, p c = true) (hrest : ∀ c ∈ rest.head?, p c = false) :
    (run ++ rest).takeWhile p = run := by
  rw [List.takeWhile_append_of_pos hrun]
  cases rest with
  | nil => exact List.append_nil run
  | cons c rest =>
    rw [List.takeWhile_cons_of_neg (by simp [hrest c rfl]), List.append_nil]

theorem dropWhile_exact (hrun : ∀ c ∈ run, p c = true) (hrest : ∀ c ∈ rest.head?, p c = false) :
    (run ++ rest).dropWhile p = rest := by
  rw [List.dropWhile_append_of_pos hrun]
  cases rest with
  | nil => rfl
  | cons c rest => exact List.dropWhile_cons_of_neg (by simp [hrest c rfl])

end Runs

section Numbers

theorem isDigit_of_mem_ofNat {c : Char} {n : Nat} (h : c ∈ Text.ofNat n) : c.isDigit = true :=
  Nat.isDigit_of_mem_toDigits (by decide) (by decide) h

theorem ofNat_ne_nil (n : Nat) : Text.ofNat n ≠ [] :=
  Nat.toDigits_ne_nil

/-- Zero is the only number with a zero in front. -/
theorem eq_nil_of_ofNat_eq_zero {n : Nat} {rest : Text} (h : Text.ofNat n = '0' :: rest) :
    rest = [] := by
  induction n using Nat.strongRecOn generalizing rest with
  | _ n ih =>
    by_cases hn : n < 10
    · rw [Text.ofNat, Nat.toDigits_of_lt_base hn] at h
      exact (List.cons.inj h).2.symm
    · rw [Text.ofNat, Nat.toDigits_of_base_le (by decide) (by omega)] at h
      rcases List.append_eq_cons_iff.1 h with ⟨hnil, -⟩ | ⟨front, hfront, -⟩
      · exact absurd hnil Nat.toDigits_ne_nil
      · have hzero : n / 10 = 0 := by
          rw [← @Nat.ofDigitChars_ten_toDigits (n / 10), hfront, ih (n / 10) (by omega) hfront]
          rfl
        omega

end Numbers

end Text

end EventText
