import EventText.Text.Lower
import Mathlib.Data.List.TakeWhile

/-! The case of ASCII letters and the lower case of a text. All that lowering a character looks at, its
neighbours included, is the same for a small ASCII letter and its capital, so texts that differ only
there have the same lower case (`Text.lower_congr`). -/

namespace EventText

def smallLetters : List Nat :=
  List.range' 'a'.toNat 26

/-- What holds of the capitals of all small letters holds of every character in upper case. -/
theorem toUpper_rec {motive : Char → Char → Prop} (same : ∀ c, motive c c)
    (letter : ∀ code ∈ smallLetters, motive (Char.ofNat code) (Char.ofNat code).toUpper) (c : Char) :
    motive c c.toUpper := by
  by_cases h : 'a'.val ≤ c.val ∧ c.val ≤ 'z'.val
  · have hcode : c.toNat ∈ smallLetters := by
      have hfirst : 97 ≤ c.toNat := h.1
      have hlast : c.toNat ≤ 122 := h.2
      exact List.mem_range'_1.2 ⟨hfirst, Nat.lt_succ_of_le hlast⟩
    simpa only [Char.ofNat_toNat] using letter c.toNat hcode
  · have hsame : c.toUpper = c := dif_neg h
    rw [hsame]
    exact same c

theorem isCased_toUpper (c : Char) : isCased c.toUpper = isCased c :=
  toUpper_rec (motive := fun c d => isCased d = isCased c) (fun _ => rfl) (by decide +kernel) c

theorem isCaseIgnorable_toUpper (c : Char) : isCaseIgnorable c.toUpper = isCaseIgnorable c :=
  toUpper_rec (motive := fun c d => isCaseIgnorable d = isCaseIgnorable c) (fun _ => rfl)
    (by decide +kernel) c

theorem casedNext_asciiUpper (text : Text) : casedNext text.asciiUpper = casedNext text := by
  have hignorable : isCaseIgnorable ∘ Char.toUpper = isCaseIgnorable :=
    funext isCaseIgnorable_toUpper
  unfold casedNext Text.asciiUpper
  rw [List.dropWhile_map, hignorable]
  cases text.dropWhile isCaseIgnorable with
  | nil => rfl
  | cons c rest => exact isCased_toUpper c

theorem lowerAt_toUpper (before : Text) (c : Char) (after : Text) :
    lowerAt before c.toUpper after = lowerAt before c after := by
  obtain ⟨hsigma, hdotted, hrun⟩ : (c.toUpper = 'Σ' ↔ c = 'Σ') ∧ (c.toUpper = 'İ' ↔ c = 'İ') ∧
      CaseRun.apply lowerRuns c.toUpper = CaseRun.apply lowerRuns c :=
    toUpper_rec
      (motive := fun c d => (d = 'Σ' ↔ c = 'Σ') ∧ (d = 'İ' ↔ c = 'İ') ∧
        CaseRun.apply lowerRuns d = CaseRun.apply lowerRuns c)
      (fun _ => ⟨Iff.rfl, Iff.rfl, rfl⟩) (by decide +kernel) c
  simp only [lowerAt, hsigma, hdotted, hrun]

theorem lowerFrom_asciiUpper (before text : Text) :
    lowerFrom before.asciiUpper text.asciiUpper = lowerFrom before text := by
  induction text generalizing before with
  | nil => rfl
  | cons c rest ih =>
    have hrest := ih (c :: before)
    have hat : lowerAt before.asciiUpper c (Text.asciiUpper rest) = lowerAt before c rest := by
      simp only [lowerAt, casedNext_asciiUpper]
    calc lowerFrom before.asciiUpper (Text.asciiUpper (c :: rest))
        = lowerAt before.asciiUpper c.toUpper (Text.asciiUpper rest) ++
            lowerFrom (Text.asciiUpper (c :: before)) (Text.asciiUpper rest) := rfl
      _ = lowerFrom before (c :: rest) := by rw [lowerAt_toUpper, hat, hrest, lowerFrom]

/-- Texts that differ at most in the case of ASCII letters have the same lower case. -/
theorem Text.lower_congr {a b : Text} (h : a.asciiUpper = b.asciiUpper) : a.lower = b.lower := by
  have hupper : ∀ text : Text, text.asciiUpper.lower = text.lower := lowerFrom_asciiUpper []
  rw [← hupper a, h, hupper]

end EventText
