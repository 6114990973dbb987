import EventText.Proofs.Time.Written

/-! Readings to the minute. A reading of the calendar is the one that its seconds lead to
(`ofSecond_second`), and two readings are written the same to the minute exactly when they lie in the
same minute (`toMinute_ofSecond_eq_iff`). -/

namespace EventText

namespace Date

theorem year_unique {n year other : Int} (hfirst : daysBeforeYear year ≤ n)
    (hlast : n < daysBeforeYear (year + 1)) (hfirst' : daysBeforeYear other ≤ n)
    (hlast' : n < daysBeforeYear (other + 1)) : year = other := by
  by_contra hne
  rcases lt_or_gt_of_ne hne with hlt | hlt
  · have := daysBeforeYear_mono (show year + 1 ≤ other by omega)
    omega
  · have := daysBeforeYear_mono (show other + 1 ≤ year by omega)
    omega

theorem monthOf_take {lengths : List Nat} {i length n : Nat} (month : Nat)
    (hi : lengths[i]? = some length) (hn : n < length) :
    monthOf month ((lengths.take i).sum + n) lengths = (month + i, n + 1) := by
  induction lengths generalizing i month with
  | nil => simp at hi
  | cons first rest ih =>
    cases i with
    | zero =>
      obtain rfl : first = length := by simpa using hi
      rw [List.take_zero, List.sum_nil, Nat.zero_add, monthOf, if_pos hn]
      rfl
    | succ i =>
      have hrest := ih (month + 1) (by simpa using hi)
      rw [List.take_succ_cons, List.sum_cons, monthOf, if_neg (by omega),
        Nat.add_assoc, Nat.add_sub_cancel_left, hrest]
      simp only [Nat.add_assoc, Nat.add_comm 1 i]

theorem ofNumber_number {d : Date} (h : d.isValid = true) : ofNumber d.number = d := by
  have hlt := number_lt h
  unfold isValid at h
  split at h
  · rename_i length hlength
    simp only [Bool.and_eq_true, decide_eq_true_eq] at h
    have hbefore : daysBeforeMonth d.year d.month =
        ((monthLengths d.year).take (d.month - 1)).sum := rfl
    have hn : d.number + daysBeforeYear 1970 =
        daysBeforeYear d.year + (((monthLengths d.year).take (d.month - 1)).sum + (d.day - 1) : Nat) := by
      rw [number, hbefore]
      omega
    have hyear : yearOf (d.number + daysBeforeYear 1970) = d.year :=
      year_unique (yearOf_le _) (lt_yearOf_succ _) (by omega) (by omega)
    have hday : (d.number + daysBeforeYear 1970 - daysBeforeYear d.year).toNat =
        ((monthLengths d.year).take (d.month - 1)).sum + (d.day - 1) := by omega
    have hmonth := monthOf_take 1 hlength (n := d.day - 1) (by omega)
    rw [ofNumber, hyear, hday, hmonth]
    obtain ⟨year, month, day⟩ := d
    simp only [Date.mk.injEq, true_and]
    dsimp only at h
    omega
  · rw [Bool.and_false] at h
    cases h

theorem bounds_ofNumber (days : Int) : (ofNumber days).month < 100 ∧ (ofNumber days).day < 100 := by
  obtain ⟨i, length, day, hi, hlength, -, hmonth, hday⟩ := ofNumber_eq days
  obtain ⟨hshort, -⟩ := List.getElem?_eq_some_iff.1 hi
  have hbounds := bounds_of_mem_monthLengths _ (List.mem_of_getElem? hi)
  have htwelve : (monthLengths (ofNumber days).year).length = 12 := rfl
  omega

end Date

namespace DateTime

theorem ofSecond_second {t : DateTime} (h : t.IsValid) :
    ofSecond t.second t.time.nanosecond = t := by
  obtain ⟨hdate, hhour, hminute, hsecond⟩ := h
  have hday : t.second / 86400 = t.date.number := by
    unfold second
    omega
  have hrest : (t.second % 86400).toNat =
      t.time.hour * 3600 + t.time.minute * 60 + t.time.second := by
    unfold second
    omega
  rw [ofSecond, hday, Date.ofNumber_number hdate, hrest]
  obtain ⟨date, hour, minute, second, nanosecond⟩ := t
  dsimp only at hhour hminute hsecond ⊢
  congr 2
  · omega
  · omega
  · omega

/-- A number of two digits is told from what follows it. -/
theorem padded_cons_inj {m n : Nat} (hm : m < 100) (hn : n < 100) {c : Char} (hc : c.isDigit = false)
    {rest rest' : Text}
    (h : Text.padded 2 m ++ c :: rest = Text.padded 2 n ++ c :: rest') : m = n ∧ rest = rest' := by
  have hread := congrArg (readField? 2) h
  rw [readField?_padded (by decide) hm (endsNumber_cons hc rest),
    readField?_padded (by decide) hn (endsNumber_cons hc rest')] at hread
  simpa using hread

/-- The fields of readings that are written the same to the minute are the same. -/
theorem fields_of_toMinute_eq {a b : DateTime} (ha : a.date.month < 100 ∧ a.date.day < 100)
    (hb : b.date.month < 100 ∧ b.date.day < 100) (hhours : a.time.hour < 100 ∧ b.time.hour < 100)
    (h : a.toMinute = b.toMinute) :
    a.date = b.date ∧ a.time.hour = b.time.hour ∧ a.time.minute = b.time.minute := by
  simp only [toMinute, Date.written, List.append_assoc, List.cons_append] at h
  have hread := congrArg readYear? h
  rw [readYear?_writeYear _ (endsNumber_cons rfl _), readYear?_writeYear _ (endsNumber_cons rfl _),
    Option.some.injEq, Prod.mk.injEq] at hread
  obtain ⟨hyear, hrest⟩ := hread
  obtain ⟨hmonth, hrest⟩ := padded_cons_inj ha.1 hb.1 rfl (List.cons.inj hrest).2
  obtain ⟨hday, hrest⟩ := padded_cons_inj ha.2 hb.2 rfl hrest
  obtain ⟨hhour, hrest⟩ := padded_cons_inj hhours.1 hhours.2 rfl hrest
  have hminute := congrArg digitsValue hrest
  rw [digitsValue_padded, digitsValue_padded] at hminute
  have hdate : Date.mk a.date.year a.date.month a.date.day =
      Date.mk b.date.year b.date.month b.date.day := by rw [hyear, hmonth, hday]
  exact ⟨hdate, hhour, hminute⟩

/-- Two readings are written the same to the minute exactly when they lie in the same minute. -/
theorem toMinute_ofSecond_eq_iff (s t : Int) (m n : Nat) :
    (ofSecond s m).toMinute = (ofSecond t n).toMinute ↔ s / 60 = t / 60 := by
  constructor
  · intro h
    obtain ⟨hdate, hhour, hminute⟩ := fields_of_toMinute_eq (Date.bounds_ofNumber _)
      (Date.bounds_ofNumber _) ⟨by simp only [ofSecond]; omega, by simp only [ofSecond]; omega⟩ h
    have hdays := congrArg Date.number hdate
    simp only [ofSecond, Date.number_ofNumber] at hdays hhour hminute
    omega
  · intro h
    have hdays : s / 86400 = t / 86400 := by omega
    have hhour : (s % 86400).toNat / 3600 = (t % 86400).toNat / 3600 := by omega
    have hminute : (s % 86400).toNat / 60 % 60 = (t % 86400).toNat / 60 % 60 := by omega
    simp only [toMinute, ofSecond, hdays, hhour, hminute]

end DateTime

end EventText
