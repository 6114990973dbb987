import EventText.Proofs.Time.Reach

/-! Numbers of days and of seconds turned into dates and readings, and back. The date with a number is
in the calendar, and its number is that number again. -/

namespace EventText

theorem Date.monthOf_eq {lengths : List Nat} {n : Nat} (month : Nat) (h : n < lengths.sum) :
    ∃ i length day, lengths[i]? = some length ∧ day < length ∧ (lengths.take i).sum + day = n ∧
      monthOf month n lengths = (month + i, day + 1) := by
  induction lengths generalizing month n with
  | nil => simp at h
  | cons length rest ih =>
    rw [monthOf]
    split
    · rename_i hn
      exact ⟨0, length, n, rfl, hn, by simp, rfl⟩
    · rename_i hn
      rw [List.sum_cons] at h
      obtain ⟨i, length', day, hi, hday, hsum, heq⟩ := ih (n := n - length) (month + 1) (by omega)
      refine ⟨i + 1, length', day, hi, hday, ?_, ?_⟩
      · rw [List.take_succ_cons, List.sum_cons]
        omega
      · rw [heq, Nat.add_assoc, Nat.add_comm 1 i]

theorem Date.yearOf_le (n : Int) : daysBeforeYear (yearOf n) ≤ n := by
  unfold yearOf
  dsimp only
  split
  · unfold daysBeforeYear at *
    omega
  · split <;> omega

theorem Date.lt_yearOf_succ (n : Int) : n < daysBeforeYear (yearOf n + 1) := by
  unfold yearOf
  dsimp only
  split
  · rwa [Int.sub_add_cancel]
  · split
    · unfold daysBeforeYear at *
      omega
    · omega

namespace Date

theorem ofNumber_eq (days : Int) :
    ∃ i length day, (monthLengths (ofNumber days).year)[i]? = some length ∧ day < length ∧
      ((monthLengths (ofNumber days).year).take i).sum + day =
        (days + daysBeforeYear 1970 - daysBeforeYear (ofNumber days).year).toNat ∧
      (ofNumber days).month = i + 1 ∧ (ofNumber days).day = day + 1 := by
  have hfirst := yearOf_le (days + daysBeforeYear 1970)
  have hlast := lt_yearOf_succ (days + daysBeforeYear 1970)
  rw [daysBeforeYear_succ, ← sum_monthLengths] at hlast
  have hday : (days + daysBeforeYear 1970 -
      daysBeforeYear (yearOf (days + daysBeforeYear 1970))).toNat <
      (monthLengths (yearOf (days + daysBeforeYear 1970))).sum := by omega
  obtain ⟨i, length, day, hi, hlength, hsum, heq⟩ := monthOf_eq 1 hday
  refine ⟨i, length, day, hi, hlength, hsum, ?_, ?_⟩
  · rw [ofNumber, heq, Nat.add_comm]
  · rw [ofNumber, heq]

@[simp] theorem number_ofNumber (days : Int) : (ofNumber days).number = days := by
  obtain ⟨i, length, day, -, -, hsum, hmonth, hday⟩ := ofNumber_eq days
  have hfirst : daysBeforeYear (ofNumber days).year ≤ days + daysBeforeYear 1970 := yearOf_le _
  have hbefore : daysBeforeMonth (ofNumber days).year (ofNumber days).month =
      ((monthLengths (ofNumber days).year).take i).sum := by
    rw [hmonth]
    rfl
  rw [number, hbefore, hday]
  omega

/-- The date with a number is in the calendar when its year is one of the clock. -/
theorem isValid_ofNumber {days : Int} (hfirst : number ⟨firstYear, 1, 1⟩ ≤ days)
    (hlast : days ≤ number ⟨lastYear, 12, 31⟩) : (ofNumber days).isValid = true := by
  obtain ⟨i, length, day, hi, hlength, -, hmonth, hday⟩ := ofNumber_eq days
  have hle : daysBeforeYear (ofNumber days).year ≤ days + daysBeforeYear 1970 := yearOf_le _
  have hlt : days + daysBeforeYear 1970 < daysBeforeYear ((ofNumber days).year + 1) :=
    lt_yearOf_succ _
  have hyears : firstYear ≤ (ofNumber days).year ∧ (ofNumber days).year ≤ lastYear := by
    have hbounds : number ⟨firstYear, 1, 1⟩ = daysBeforeYear firstYear - daysBeforeYear 1970 ∧
        number ⟨lastYear, 12, 31⟩ = daysBeforeYear (lastYear + 1) - daysBeforeYear 1970 - 1 := by
      decide
    constructor
    · by_contra hless
      have := daysBeforeYear_mono (a := (ofNumber days).year + 1) (b := firstYear) (by omega)
      omega
    · by_contra hmore
      have := daysBeforeYear_mono (a := lastYear + 1) (b := (ofNumber days).year) (by omega)
      omega
  unfold isValid
  rw [hmonth, Nat.add_sub_cancel, hi, hday]
  simp only [Bool.and_eq_true, decide_eq_true_eq]
  exact ⟨⟨⟨hyears, by omega⟩, by omega⟩, hlength⟩

end Date

namespace DateTime

theorem second_ofSecond (second : Int) (nanosecond : Nat) :
    (ofSecond second nanosecond).second = second := by
  rw [DateTime.second, ofSecond]
  simp only [Date.number_ofNumber]
  omega

end DateTime

end EventText
