import EventText.Proofs.Text.Runs
import EventText.Proofs.Text.Trim
import EventText.Time.Local
import Mathlib.Algebra.BigOperators.Group.List.Basic
import Mathlib.Algebra.Ring.Nat
import Mathlib.Data.List.Induction

/-! How far the times reach that a reader can write down. A date is less than a year after the first
day of its year, and without a plus sign a year has four digits at most. So only a start with a plus
sign comes near the end of the clock. -/

namespace EventText

section Digits

theorem digitsValue_append_singleton (digits : Text) (c : Char) :
    digitsValue (digits ++ [c]) = digitsValue digits * 10 + (c.toNat - '0'.toNat) := by
  simp [digitsValue]

theorem digitsValue_lt {digits : Text} (h : ∀ c ∈ digits, c.isDigit = true) :
    digitsValue digits < 10 ^ digits.length := by
  -- the value is built from the left, so the last digit is taken off
  induction digits using List.reverseRecOn with
  | nil => decide
  | append_singleton digits c ih =>
    have hdigits := ih fun d hd => h d (List.mem_append_left _ hd)
    have hc := toNat_sub_lt_of_isDigit (h c (by simp))
    rw [digitsValue_append_singleton, List.length_append, List.length_singleton, Nat.pow_succ]
    omega

theorem digitsValue_takeWhile_lt (most : Nat) (text : Text) :
    digitsValue ((text.take most).takeWhile Char.isDigit) < 10 ^ most := by
  have hlength : ((text.take most).takeWhile Char.isDigit).length ≤ most :=
    (List.takeWhile_sublist _).length_le.trans (List.length_take_le ..)
  exact (digitsValue_lt fun c hc => List.mem_takeWhile_imp hc).trans_le
    (Nat.pow_le_pow_right (by decide) hlength)

theorem lt_of_readDigits? {count n : Nat} {text rest : Text}
    (h : readDigits? count text = some (n, rest)) : n < 10 ^ count := by
  unfold readDigits? at h
  dsimp only at h
  split at h
  · obtain ⟨rfl, -⟩ := Prod.mk.inj (Option.some.inj h)
    exact digitsValue_takeWhile_lt count text
  · cases h

theorem lt_of_readNumber? {most n : Nat} {text rest : Text}
    (h : readNumber? most text = some (n, rest)) : n < 10 ^ most := by
  unfold readNumber? at h
  dsimp only at h
  split at h
  · cases h
  · obtain ⟨rfl, -⟩ := Prod.mk.inj (Option.some.inj h)
    exact digitsValue_takeWhile_lt most text

theorem le_of_bind_within? {x : Option (Nat × Text)} {least most n : Nat} {rest : Text}
    (h : x.bind (within? least most) = some (n, rest)) : n ≤ most := by
  obtain ⟨⟨m, before⟩, -, h⟩ := Option.bind_eq_some_iff.1 h
  rw [within?] at h
  split at h
  · rename_i hbounds
    obtain ⟨rfl, -⟩ := Prod.mk.inj (Option.some.inj h)
    simp only [Bool.and_eq_true, decide_eq_true_eq] at hbounds
    exact hbounds.2
  · cases h

end Digits

section Calendar

def yearLength (year : Int) : Nat :=
  if isLeapYear year then 366 else 365

theorem sum_monthLengths (year : Int) : (monthLengths year).sum = yearLength year := by
  unfold monthLengths yearLength
  split <;> rfl

theorem bounds_of_mem_monthLengths {year : Int} :
    ∀ length ∈ monthLengths year, 28 ≤ length ∧ length ≤ 31 := by
  unfold monthLengths
  split <;> decide

theorem daysBeforeYear_succ (year : Int) :
    daysBeforeYear (year + 1) = daysBeforeYear year + yearLength year := by
  unfold daysBeforeYear yearLength isLeapYear
  split <;> simp_all <;> omega

theorem daysBeforeYear_mono {a b : Int} (h : a ≤ b) : daysBeforeYear a ≤ daysBeforeYear b := by
  unfold daysBeforeYear
  omega

/-- What stands before an entry of a list of numbers and the entry itself do not exceed the sum. -/
theorem sum_take_add_le {lengths : List Nat} {i length : Nat} (h : lengths[i]? = some length) :
    (lengths.take i).sum + length ≤ lengths.sum := by
  obtain ⟨hi, rfl⟩ := List.getElem?_eq_some_iff.1 h
  have hsplit := congrArg List.sum (List.take_append_drop i lengths)
  rw [List.sum_append, List.drop_eq_getElem_cons hi, List.sum_cons] at hsplit
  omega

namespace Date

theorem number_lt {d : Date} (h : d.isValid = true) :
    d.number < daysBeforeYear (d.year + 1) - daysBeforeYear 1970 := by
  unfold isValid at h
  split at h
  · rename_i length hlength
    simp only [Bool.and_eq_true, decide_eq_true_eq] at h
    have hsum := sum_take_add_le hlength
    rw [sum_monthLengths] at hsum
    have hmonth : daysBeforeMonth d.year d.month = ((monthLengths d.year).take (d.month - 1)).sum :=
      rfl
    rw [number, daysBeforeYear_succ, hmonth]
    omega
  · rw [Bool.and_false] at h
    cases h

end Date

end Calendar

namespace DateTime

def IsValid (t : DateTime) : Prop :=
  t.date.isValid = true ∧ t.time.hour ≤ 23 ∧ t.time.minute ≤ 59 ∧ t.time.second ≤ 59

/-- The first second of a year, as clocks show it. -/
def yearStart (year : Int) : Int :=
  (daysBeforeYear year - daysBeforeYear 1970) * 86400

theorem second_lt {t : DateTime} (h : t.IsValid) : t.second < yearStart (t.date.year + 1) := by
  obtain ⟨hdate, hhour, hminute, hsecond⟩ := h
  have hnumber := Date.number_lt hdate
  unfold second yearStart
  omega

theorem yearStart_mono {a b : Int} (h : a ≤ b) : yearStart a ≤ yearStart b := by
  have := daysBeforeYear_mono h
  unfold yearStart
  omega

end DateTime

section Readers

theorem isValid_of_readingOf? {date : Date} {hour minute second nanosecond : Nat}
    {reading : DateTime} (h : readingOf? date hour minute second nanosecond = some reading)
    (hhour : hour ≤ 23) (hminute : minute ≤ 59) (hsecond : second ≤ 60) :
    reading.IsValid ∧ reading.date = date := by
  unfold readingOf? at h
  split at h
  · rename_i hdate
    obtain rfl := Option.some.inj h
    refine ⟨⟨hdate, ?_⟩, rfl⟩
    split
    · exact ⟨hhour, hminute, le_rfl⟩
    · exact ⟨hhour, hminute, by dsimp only; omega⟩
  · cases h

/-- A time after RFC 3339 is one that a clock shows in a year of four digits. -/
theorem exists_reading_of_readRfc3339? {text : Text} {t : OffsetInstant}
    (h : readRfc3339? text = some t) :
    ∃ reading offset, instantAt? reading offset = some t ∧ reading.IsValid ∧
      reading.date.year ≤ 9999 := by
  obtain ⟨⟨year, _⟩, hyear, h⟩ := Option.bind_eq_some_iff.1 h
  obtain ⟨_, -, h⟩ := Option.bind_eq_some_iff.1 h
  obtain ⟨⟨month, _⟩, -, h⟩ := Option.bind_eq_some_iff.1 h
  obtain ⟨_, -, h⟩ := Option.bind_eq_some_iff.1 h
  obtain ⟨⟨day, _⟩, -, h⟩ := Option.bind_eq_some_iff.1 h
  obtain ⟨_, -, h⟩ := Option.bind_eq_some_iff.1 h
  obtain ⟨⟨hour, _⟩, hhour, h⟩ := Option.bind_eq_some_iff.1 h
  obtain ⟨_, -, h⟩ := Option.bind_eq_some_iff.1 h
  obtain ⟨⟨minute, _⟩, hminute, h⟩ := Option.bind_eq_some_iff.1 h
  obtain ⟨_, -, h⟩ := Option.bind_eq_some_iff.1 h
  obtain ⟨⟨second, _⟩, hsecond, h⟩ := Option.bind_eq_some_iff.1 h
  obtain ⟨⟨nanosecond, _⟩, -, h⟩ := Option.bind_eq_some_iff.1 h
  obtain ⟨⟨offset, _⟩, -, h⟩ := Option.bind_eq_some_iff.1 h
  obtain ⟨_, -, h⟩ := Option.bind_eq_some_iff.1 h
  obtain ⟨reading, hreading, hinstant⟩ := Option.bind_eq_some_iff.1 h
  have hlarge := lt_of_readDigits? hyear
  obtain ⟨hvalid, hdate⟩ := isValid_of_readingOf? hreading (le_of_bind_within? hhour)
    (le_of_bind_within? hminute) (le_of_bind_within? hsecond)
  refine ⟨reading, offset, hinstant, hvalid, ?_⟩
  rw [hdate]
  dsimp only
  omega

theorem readYear?_le {text rest : Text} {year : Int} (h : readYear? text = some (year, rest))
    (hplus : text.trimStart.head? ≠ some '+') : year ≤ 9999 := by
  unfold readYear? at h
  split at h
  · obtain ⟨⟨n, after⟩, -, heq⟩ := Option.map_eq_some_iff.1 h
    obtain ⟨rfl, -⟩ := Prod.mk.inj heq
    omega
  · rename_i htext
    rw [htext] at hplus
    exact absurd rfl hplus
  · obtain ⟨⟨n, after⟩, hn, heq⟩ := Option.map_eq_some_iff.1 h
    obtain ⟨rfl, -⟩ := Prod.mk.inj heq
    have := lt_of_readNumber? hn
    omega

theorem exists_fields_of_readMinute? {between : Text → Option Text} {text : Text}
    {reading : DateTime} (h : readMinute? between text = some reading) :
    ∃ date hour minute, readingOf? date hour minute 0 0 = some reading ∧ hour ≤ 23 ∧
      minute ≤ 59 ∧ (text.trimStart.head? ≠ some '+' → date.year ≤ 9999) := by
  obtain ⟨⟨year, _⟩, hyear, h⟩ := Option.bind_eq_some_iff.1 h
  obtain ⟨_, -, h⟩ := Option.bind_eq_some_iff.1 h
  obtain ⟨⟨month, _⟩, -, h⟩ := Option.bind_eq_some_iff.1 h
  obtain ⟨_, -, h⟩ := Option.bind_eq_some_iff.1 h
  obtain ⟨⟨day, _⟩, -, h⟩ := Option.bind_eq_some_iff.1 h
  obtain ⟨_, -, h⟩ := Option.bind_eq_some_iff.1 h
  obtain ⟨⟨hour, _⟩, hhour, h⟩ := Option.bind_eq_some_iff.1 h
  obtain ⟨_, -, h⟩ := Option.bind_eq_some_iff.1 h
  obtain ⟨⟨minute, _⟩, hminute, h⟩ := Option.bind_eq_some_iff.1 h
  obtain ⟨_, -, hreading⟩ := Option.bind_eq_some_iff.1 h
  exact ⟨⟨year, month, day⟩, hour, minute, hreading, le_of_bind_within? hhour,
    le_of_bind_within? hminute, readYear?_le hyear⟩

theorem isValid_of_readMinute? {between : Text → Option Text} {text : Text} {reading : DateTime}
    (h : readMinute? between text = some reading) :
    reading.IsValid ∧ (text.trimStart.head? ≠ some '+' → reading.date.year ≤ 9999) := by
  obtain ⟨date, hour, minute, hreading, hhour, hminute, hyear⟩ := exists_fields_of_readMinute? h
  obtain ⟨hvalid, rfl⟩ := isValid_of_readingOf? hreading hhour hminute (Nat.zero_le _)
  exact ⟨hvalid, hyear⟩

theorem isValid_of_readLocal? {text : Text} {reading : DateTime}
    (h : readLocal? text = some reading) :
    reading.IsValid ∧ (text.trimStart.head? ≠ some '+' → reading.date.year ≤ 9999) := by
  rcases Option.or_eq_some_iff.1 h with h | ⟨-, h⟩
  · exact isValid_of_readMinute? h
  · exact isValid_of_readMinute? h

end Readers

namespace Instant

theorem addMinutes?_eq_none_iff (t : Instant) (minutes : Nat) :
    t.addMinutes? minutes = none ↔ lastSecond < t.second + minutes * 60 := by
  have hfirst := t.first_le
  have hnanosecond := t.nanosecond_lt
  rw [addMinutes?, ofSecond?_eq_none_iff]
  split <;> omega

theorem second_of_addMinutes? {t s : Instant} {minutes : Nat}
    (h : t.addMinutes? minutes = some s) : s.second = t.second + minutes * 60 :=
  (ofSecond?_eq_some_iff.1 h).1

end Instant

theorem instant_of_instantAt? {reading : DateTime} {offset : Int} {t : OffsetInstant}
    (h : instantAt? reading offset = some t) :
    t.instant.second = reading.second - offset ∧ t.instant.nanosecond = reading.time.nanosecond := by
  unfold instantAt? at h
  split at h
  · obtain ⟨s, hs, rfl⟩ := Option.map_eq_some_iff.1 h
    exact Instant.ofSecond?_eq_some_iff.1 hs
  · cases h

/-- An instant that is read off a clock is at most a day from what the clock shows. -/
theorem second_lt_of_instantAt? {reading : DateTime} {offset : Int} {t : OffsetInstant}
    (h : instantAt? reading offset = some t) : t.instant.second < reading.second + 86400 := by
  rw [(instant_of_instantAt? h).1]
  unfold instantAt? at h
  split at h
  · rename_i hoffset
    simp only [isOffset, Bool.and_eq_true, decide_eq_true_eq] at hoffset
    omega
  · cases h

namespace Zone

theorem instant_of_clockAt? {zone : Zone} {s : Instant} {t : OffsetInstant}
    (h : zone.clockAt? s = some t) : t.instant = s := by
  unfold clockAt? at h
  split at h
  · obtain rfl := Option.some.inj h
    rfl
  · cases h

theorem exists_offset_of_instantOf? {zone : Zone} {reading : DateTime} {t : OffsetInstant}
    (h : zone.instantOf? reading = some t) : ∃ offset, instantAt? reading offset = some t := by
  unfold instantOf? at h
  split at h
  · cases h
  · exact ⟨_, h⟩
  · simp only [Option.bind_eq_bind, Option.bind_eq_some_iff] at h
    obtain ⟨s, hs, -, -, hpure⟩ := h
    obtain rfl := Option.some.inj hpure
    exact ⟨_, hs⟩

theorem exists_reading_of_readTime {zone : Zone} {input : Text} {t : OffsetInstant}
    (h : zone.readTime input = .ok t) :
    ∃ reading offset s, instantAt? reading offset = some s ∧ t.instant = s.instant ∧
      reading.IsValid ∧ (input.trim.head? ≠ some '+' → reading.date.year ≤ 9999) := by
  unfold readTime at h
  split at h
  · rename_i s hrfc
    split at h
    · rename_i hclock
      obtain rfl := Except.ok.inj h
      obtain ⟨reading, offset, hs, hvalid, hyear⟩ := exists_reading_of_readRfc3339? hrfc
      exact ⟨reading, offset, s, hs, instant_of_clockAt? hclock, hvalid, fun _ => hyear⟩
    · cases h
  · split at h
    · rename_i reading hlocal
      split at h
      · rename_i hinstant
        obtain rfl := Except.ok.inj h
        obtain ⟨offset, hs⟩ := exists_offset_of_instantOf? hinstant
        obtain ⟨hvalid, hyear⟩ := isValid_of_readLocal? hlocal
        rw [Text.trimStart_trim] at hyear
        exact ⟨reading, offset, _, hs, rfl, hvalid, hyear⟩
      · cases h
    · cases h

/-- A time that does not begin with a plus sign lies within a day of the years of four digits. -/
theorem second_lt_of_readTime {zone : Zone} {input : Text} {t : OffsetInstant}
    (h : zone.readTime input = .ok t) (hplus : input.trim.head? ≠ some '+') :
    t.instant.second < DateTime.yearStart 10000 + 86400 := by
  obtain ⟨reading, offset, s, hs, hinstant, hvalid, hyear⟩ := exists_reading_of_readTime h
  have hday := second_lt_of_instantAt? hs
  have hyears : DateTime.yearStart (reading.date.year + 1) ≤ DateTime.yearStart 10000 :=
    DateTime.yearStart_mono (Int.add_le_add_right (hyear hplus) 1)
  have hsecond := DateTime.second_lt hvalid
  rw [hinstant]
  omega

end Zone

end EventText
