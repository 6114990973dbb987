import EventText.Proofs.Time.Changes
import EventText.Time.ZoneText

/-! Zones whose changes are in order. A change lies within a month and a clock time of its rule, so two
changes that have a month between them, and leave out the months at the turn of the year, are in order
in every year, whatever the two offsets are. So it is in the zones that are read from a text
(`inOrder_of_ofText?`). -/

namespace EventText

section Months

theorem daysBeforeMonth_bounds (year : Int) : ∀ month ≤ 11, 2 ≤ month →
    31 ≤ daysBeforeMonth year month ∧ daysBeforeMonth year month + 61 ≤ yearLength year := by
  unfold daysBeforeMonth monthLengths yearLength
  split <;> decide

/-- The shortest two months in a row have fifty-nine days. -/
theorem daysBeforeMonth_apart (year : Int) : ∀ later ≤ 11, ∀ month < later, 2 ≤ month →
    month + 1 < later → daysBeforeMonth year month + 59 ≤ daysBeforeMonth year later := by
  unfold daysBeforeMonth monthLengths
  split <;> decide

/-- A day in one of the months, and not after them all, is a day of a month. -/
theorem Date.monthOf_bounds {lengths : List Nat} (h : ∀ length ∈ lengths, length ≤ 31)
    {month n : Nat} (hmonth : (monthOf month n lengths).1 < month + lengths.length) :
    1 ≤ (monthOf month n lengths).2 ∧ (monthOf month n lengths).2 ≤ 31 := by
  induction lengths generalizing month n with
  | nil => exact absurd hmonth (lt_irrefl month)
  | cons length rest ih =>
    rw [monthOf] at hmonth ⊢
    split_ifs at hmonth ⊢ with hn
    · have := h length List.mem_cons_self
      dsimp only
      omega
    · refine ih (fun l hl => h l (List.mem_cons_of_mem _ hl)) ?_
      rw [List.length_cons] at hmonth
      omega

end Months

/-- The week of a month is the fifth at the latest. -/
def YearDay.IsWritten : YearDay → Prop
  | withoutLeapDay _ => True
  | withLeapDay _ => True
  | weekday _ week _ => week ≤ 5

theorem YearDay.year_date (day : YearDay) (year : Int) : (day.date year).year = year := by
  cases day <;> rfl

theorem YearDay.day_bounds {day : YearDay} (h : day.IsWritten) {year : Int}
    (hmonth : (day.date year).month ≤ 11) :
    1 ≤ (day.date year).day ∧ (day.date year).day ≤ 31 := by
  have hlengths (year : Int) : ∀ length ∈ (monthLengths year).take 11, length ≤ 31 :=
    fun length hlength => (bounds_of_mem_monthLengths length (List.mem_of_mem_take hlength)).2
  have hshort (year : Int) : ((monthLengths year).take 11).length = 11 := rfl
  cases day with
  | withoutLeapDay n =>
    exact Date.monthOf_bounds (hlengths 1970) (by rw [hshort]; exact Nat.lt_succ_of_le hmonth)
  | withLeapDay n =>
    exact Date.monthOf_bounds (hlengths year) (by rw [hshort]; exact Nat.lt_succ_of_le hmonth)
  | weekday month week day =>
    have hlength : 28 ≤ ((monthLengths year)[month - 1]?).getD 31 ∧
        ((monthLengths year)[month - 1]?).getD 31 ≤ 31 := by
      cases hmem : (monthLengths year)[month - 1]? with
      | none => decide
      | some length => exact bounds_of_mem_monthLengths length (List.mem_of_getElem? hmem)
    simp only [IsWritten] at h
    simp only [date]
    split <;> omega

namespace Changeover

/-- A change as a text gives it, with a time of up to twenty-four hours and the minutes and seconds. -/
structure IsWritten (c : Changeover) : Prop where
  day : c.day.IsWritten
  time_nonneg : 0 ≤ c.time
  time_lt : c.time < 90000

/-- The change comes before the other in the year. There is a month between them, and there is one
before and one after them. -/
def Precedes (first second : Changeover) (year : Int) : Prop :=
  2 ≤ (first.day.date year).month ∧
    (first.day.date year).month + 1 < (second.day.date year).month ∧
    (second.day.date year).month ≤ 11

variable {first second : Changeover} {year : Int}

theorem second_bounds {c : Changeover} (h : c.IsWritten) (hmonth : (c.day.date year).month ≤ 11) :
    DateTime.yearStart year + daysBeforeMonth year (c.day.date year).month * 86400 ≤ c.second year ∧
      c.second year < DateTime.yearStart year +
        (daysBeforeMonth year (c.day.date year).month + 32) * 86400 := by
  have hday := YearDay.day_bounds h.day hmonth
  have hnonneg := h.time_nonneg
  have hlt := h.time_lt
  simp only [second, Date.number, DateTime.yearStart, YearDay.year_date]
  omega

/-- At least twenty-seven days lie between the changes, and before and after them. -/
theorem Precedes.bounds (h : first.Precedes second year) (hfirst : first.IsWritten)
    (hsecond : second.IsWritten) :
    DateTime.yearStart year + 27 * 86400 ≤ first.second year ∧
      first.second year + 27 * 86400 ≤ second.second year ∧
      second.second year + 27 * 86400 ≤ DateTime.yearStart (year + 1) := by
  obtain ⟨hlower, hapart, hupper⟩ := h
  have hmonth : (first.day.date year).month ≤ 11 := by omega
  have hbefore := second_bounds hfirst hmonth
  have hafter := second_bounds hsecond hupper
  have hearly := (daysBeforeMonth_bounds year _ hmonth hlower).1
  have hbetween := daysBeforeMonth_apart year _ hupper _ (by omega) hlower hapart
  have hlate := (daysBeforeMonth_bounds year _ hupper (by omega)).2
  have hyear : DateTime.yearStart (year + 1) = DateTime.yearStart year + yearLength year * 86400 := by
    rw [DateTime.yearStart, daysBeforeYear_succ, DateTime.yearStart]
    omega
  omega

variable {low high : Int}

/-- Offsets are less than two days from each other, and the changes further. -/
theorem Precedes.inOrder_forward (h : first.Precedes second year) (hfirst : first.IsWritten)
    (hsecond : second.IsWritten) (hlow : isOffset low = true) (hhigh : isOffset high = true) :
    Changes.InOrder true year ⟨low, high, first.second year, second.second year, true⟩ := by
  have hbounds := h.bounds hfirst hsecond
  simp only [isOffset, Bool.and_eq_true, decide_eq_true_eq] at hlow hhigh
  refine ⟨rfl, fun _ => ?_, by simp⟩
  simp only [Changes.jump]
  omega

theorem Precedes.inOrder_back (h : first.Precedes second year) (hfirst : first.IsWritten)
    (hsecond : second.IsWritten) (hlow : isOffset low = true) (hhigh : isOffset high = true) :
    Changes.InOrder false year ⟨low, high, second.second year, first.second year, false⟩ := by
  have hbounds := h.bounds hfirst hsecond
  simp only [isOffset, Bool.and_eq_true, decide_eq_true_eq] at hlow hhigh
  refine ⟨rfl, by simp, fun _ => ?_⟩
  simp only [Changes.jump]
  omega

theorem Precedes.startsFirst (h : first.Precedes second year) :
    decide ((first.day.date year).month < (second.day.date year).month) = true ∧
      decide ((second.day.date year).month < (first.day.date year).month) = false := by
  obtain ⟨-, hapart, -⟩ := h
  exact ⟨decide_eq_true (by omega), decide_eq_false (by omega)⟩

end Changeover

namespace Zone

variable {standard daylight year : Int} {start finish : Changeover}

/-- The changes of a zone are in order when in every year the same one precedes the other. -/
theorem inOrder_alternating (hoffsets : isOffset standard = true ∧ isOffset daylight = true)
    (hstart : start.IsWritten) (hfinish : finish.IsWritten)
    (hseasons : (∀ y, start.Precedes finish y) ∨ ∀ y, finish.Precedes start y) :
    (alternating standard daylight start finish).InOrder year := by
  obtain ⟨hstandard, hdaylight⟩ := hoffsets
  refine ⟨by simp [offsets, hstandard, hdaylight], fun changes hchanges => ?_⟩
  obtain ⟨_, _, _, _, hzone, hcases⟩ := changes?_cases hchanges
  obtain ⟨rfl, rfl, rfl, rfl⟩ := alternating.inj hzone
  obtain ⟨-, rfl⟩ | ⟨-, rfl⟩ := hcases
  · rcases hseasons with h | h
    · refine ⟨true, fun y _ => ?_⟩
      simp only [(h y).startsFirst.1]
      exact (h y).inOrder_forward hstart hfinish hstandard hdaylight
    · refine ⟨false, fun y _ => ?_⟩
      simp only [(h y).startsFirst.2]
      exact (h y).inOrder_back hfinish hstart hstandard hdaylight
  · rcases hseasons with h | h
    · refine ⟨false, fun y _ => ?_⟩
      simp only [(h y).startsFirst.1, Bool.not_true]
      exact (h y).inOrder_back hstart hfinish hdaylight hstandard
    · refine ⟨true, fun y _ => ?_⟩
      simp only [(h y).startsFirst.2, Bool.not_false]
      exact (h y).inOrder_forward hfinish hstart hdaylight hstandard

end Zone

section Reading

variable {text rest : Text}

theorem lt_of_readClock? {n : Nat} (h : readClock? text = some (n, rest)) : n < 90000 := by
  unfold readClock? at h
  obtain ⟨⟨hours, after⟩, hhours, h⟩ := Option.bind_eq_some_iff.1 h
  have hday := le_of_bind_within? hhours
  dsimp only at h
  split at h
  · obtain ⟨⟨minutes, after⟩, hminutes, h⟩ := Option.bind_eq_some_iff.1 h
    obtain ⟨⟨seconds, after⟩, hseconds, h⟩ := Option.bind_eq_some_iff.1 h
    obtain ⟨rfl, -⟩ := Prod.mk.inj (Option.some.inj h)
    have := le_of_bind_within? hminutes
    have := le_of_bind_within? hseconds
    omega
  · obtain ⟨rfl, -⟩ := Prod.mk.inj (Option.some.inj h)
    omega

theorem isWritten_of_readYearDay? {day : YearDay} (h : readYearDay? text = some (day, rest)) :
    day.IsWritten := by
  unfold readYearDay? at h
  split at h
  · obtain ⟨⟨month, after⟩, -, h⟩ := Option.bind_eq_some_iff.1 h
    obtain ⟨after, -, h⟩ := Option.bind_eq_some_iff.1 h
    obtain ⟨⟨week, after⟩, hweek, h⟩ := Option.bind_eq_some_iff.1 h
    obtain ⟨after, -, h⟩ := Option.bind_eq_some_iff.1 h
    obtain ⟨⟨weekday, after⟩, -, h⟩ := Option.bind_eq_some_iff.1 h
    obtain ⟨rfl, -⟩ := Prod.mk.inj (Option.some.inj h)
    exact le_of_bind_within? hweek
  · obtain ⟨⟨n, after⟩, -, h⟩ := Option.bind_eq_some_iff.1 h
    obtain ⟨rfl, -⟩ := Prod.mk.inj (Option.some.inj h)
    trivial
  · obtain ⟨⟨n, after⟩, -, h⟩ := Option.bind_eq_some_iff.1 h
    obtain ⟨rfl, -⟩ := Prod.mk.inj (Option.some.inj h)
    trivial

theorem isWritten_of_readChangeover? {c : Changeover} (h : readChangeover? text = some (c, rest)) :
    c.IsWritten := by
  unfold readChangeover? at h
  obtain ⟨after, -, h⟩ := Option.bind_eq_some_iff.1 h
  obtain ⟨⟨day, after⟩, hday, h⟩ := Option.bind_eq_some_iff.1 h
  have hwritten := isWritten_of_readYearDay? hday
  dsimp only at h
  split at h
  · obtain ⟨⟨time, after⟩, htime, h⟩ := Option.bind_eq_some_iff.1 h
    obtain ⟨rfl, -⟩ := Prod.mk.inj (Option.some.inj h)
    have hlt := lt_of_readClock? htime
    exact ⟨hwritten, Int.natCast_nonneg time, Int.ofNat_lt.2 hlt⟩
  · obtain ⟨rfl, -⟩ := Prod.mk.inj (Option.some.inj h)
    exact ⟨hwritten, show (0 : Int) ≤ 7200 by decide, show (7200 : Int) < 90000 by decide⟩

end Reading

namespace Zone

variable {text : Text} {standard daylight : Int} {start finish : Changeover}

theorem isWritten_of_ofText? (h : ofText? text = some (alternating standard daylight start finish)) :
    start.IsWritten ∧ finish.IsWritten := by
  unfold ofText? at h
  obtain ⟨after, -, h⟩ := Option.bind_eq_some_iff.1 h
  obtain ⟨⟨offset, after⟩, -, h⟩ := Option.bind_eq_some_iff.1 h
  dsimp only at h
  split at h
  · cases h
  · obtain ⟨after, -, h⟩ := Option.bind_eq_some_iff.1 h
    obtain ⟨⟨offset, after⟩, -, h⟩ := Option.bind_eq_some_iff.1 h
    obtain ⟨⟨first, after⟩, hfirst, h⟩ := Option.bind_eq_some_iff.1 h
    obtain ⟨⟨second, after⟩, hsecond, h⟩ := Option.bind_eq_some_iff.1 h
    obtain ⟨-, -, h⟩ := Option.bind_eq_some_iff.1 h
    cases h
    exact ⟨isWritten_of_readChangeover? hfirst, isWritten_of_readChangeover? hsecond⟩

/-- In a zone that is read from a text, with offsets of less than a day, the changes are in order in
every year when in all years the same one precedes the other. -/
theorem inOrder_of_ofText? (h : ofText? text = some (alternating standard daylight start finish))
    (hoffsets : isOffset standard = true ∧ isOffset daylight = true)
    (hseasons : (∀ y, start.Precedes finish y) ∨ ∀ y, finish.Precedes start y) (year : Int) :
    (alternating standard daylight start finish).InOrder year :=
  inOrder_alternating hoffsets (isWritten_of_ofText? h).1 (isWritten_of_ofText? h).2 hseasons

end Zone

end EventText
