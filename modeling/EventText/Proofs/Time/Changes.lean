import EventText.Proofs.Time.Minutes
import EventText.Time.Local

/-! The changes of a local clock. A time that is typed is read by the changes of its own year, while
the offset in force at an instant is found by the changes of three years. When these are in order, the
two agree on all times but one, the first second of those that the clock skips in a year in which it
goes forward first. The other times that it skips cannot be read (`InOrder.readOffset?_eq_none_iff`),
and all times that it does not skip are read with the offset that is in force then
(`InOrder.offsetAt_eq_of_readOffset?`). -/

namespace EventText

structure Changes where
  /-- The offset that is in force before the clock goes forward and after it goes back. -/
  low : Int
  /-- The offset that is in force before the clock goes back and after it goes forward. -/
  high : Int
  /-- When the clock goes forward, in seconds as it shows them before. -/
  forward : Int
  /-- When the clock goes back, in seconds as it shows them before. -/
  back : Int
  /-- The month of the change forward comes before that of the change back. -/
  forwardFirst : Bool

namespace Changes

def jump (c : Changes) : Int :=
  c.high - c.low

/-- The high offset is in force at a second of universal time in the year. -/
def IsHigh (c : Changes) (second : Int) : Prop :=
  if c.forwardFirst then c.forward - c.low ≤ second ∧ second < c.back - c.high
  else second < c.back - c.high ∨ c.forward - c.low ≤ second

instance (c : Changes) (second : Int) : Decidable (c.IsHigh second) :=
  inferInstanceAs (Decidable (if c.forwardFirst then
    c.forward - c.low ≤ second ∧ second < c.back - c.high
    else second < c.back - c.high ∨ c.forward - c.low ≤ second))

/-- What the clock skips and what it shows twice lies within the year, the one before the other as the
months say, and apart. -/
def InOrder (forwardFirst : Bool) (year : Int) (c : Changes) : Prop :=
  c.forwardFirst = forwardFirst ∧
    (forwardFirst = true → DateTime.yearStart year ≤ c.forward ∧
      c.forward + c.jump ≤ c.back - c.jump ∧ c.back ≤ DateTime.yearStart (year + 1)) ∧
    (forwardFirst = false → DateTime.yearStart year ≤ c.back - c.jump ∧ c.back < c.forward ∧
      c.forward + c.jump ≤ DateTime.yearStart (year + 1))

/-- The clock goes forward at this very second of the reading, in a year in which it does so first. -/
def IsFirstSkipped (c : Changes) (t : Int) : Prop :=
  c.forwardFirst = true ∧ t = c.forward

def read (c : Changes) (t : Int) : LocalOffset :=
  if c.forwardFirst then Zone.forwardFirst c.forward c.back c.jump c.low c.high t
  else Zone.backFirst c.forward c.back c.jump c.low c.high t

/-- What is known of a reading by the offsets that it is read with. The first second that is skipped is
the one that is read with an offset which is not in force. -/
inductive Reads (c : Changes) (t : Int) : LocalOffset → Prop where
  | skipped : ¬ c.IsFirstSkipped t → c.IsHigh (t - c.low) → ¬ c.IsHigh (t - c.high) →
      Reads c t .skipped
  | first : c.IsFirstSkipped t → c.IsHigh (t - c.low) → ¬ c.IsHigh (t - c.high) →
      Reads c t (.once c.low)
  | low : ¬ c.IsFirstSkipped t → ¬ c.IsHigh (t - c.low) → Reads c t (.once c.low)
  | twice : ¬ c.IsFirstSkipped t → ¬ c.IsHigh (t - c.low) → Reads c t (.twice c.low c.high)
  | high : ¬ c.IsFirstSkipped t → c.IsHigh (t - c.high) → Reads c t (.once c.high)

theorem InOrder.reads_forward {c : Changes} {year : Int} (h : c.InOrder true year)
    (hlow : c.low < c.high) (t : Int) : c.Reads t (c.read t) := by
  obtain ⟨hflag, hforward, -⟩ := h
  have horder := hforward rfl
  have hhigh (s : Int) : c.IsHigh s ↔ c.forward - c.low ≤ s ∧ s < c.back - c.high := by
    simp [IsHigh, hflag]
  have hjump : c.jump = c.high - c.low := rfl
  rw [read, if_pos hflag, Zone.forwardFirst]
  by_cases hfirst : t = c.forward
  · rw [if_pos hfirst.le]
    exact .first ⟨hflag, hfirst⟩ ((hhigh _).2 (by omega)) (by rw [hhigh]; omega)
  · have hnot : ¬ c.IsFirstSkipped t := fun h => hfirst h.2
    split_ifs
    · exact .low hnot (by rw [hhigh]; omega)
    · exact .skipped hnot ((hhigh _).2 (by omega)) (by rw [hhigh]; omega)
    · exact .high hnot ((hhigh _).2 (by omega))
    · exact .twice hnot (by rw [hhigh]; omega)
    · exact .low hnot (by rw [hhigh]; omega)

theorem InOrder.reads_back {c : Changes} {year : Int} (h : c.InOrder false year)
    (hlow : c.low < c.high) (t : Int) : c.Reads t (c.read t) := by
  obtain ⟨hflag, -, hback⟩ := h
  have horder := hback rfl
  have hhigh (s : Int) : c.IsHigh s ↔ s < c.back - c.high ∨ c.forward - c.low ≤ s := by
    simp [IsHigh, hflag]
  have hnot : ¬ c.IsFirstSkipped t := by
    rintro ⟨htrue, -⟩
    rw [hflag] at htrue
    cases htrue
  have hjump : c.jump = c.high - c.low := rfl
  rw [read, if_neg (by simp [hflag]), Zone.backFirst]
  split_ifs
  · exact .high hnot ((hhigh _).2 (by omega))
  · exact .twice hnot (by rw [hhigh]; omega)
  · exact .low hnot (by rw [hhigh]; omega)
  · exact .skipped hnot ((hhigh _).2 (by omega)) (by rw [hhigh]; omega)
  · exact .high hnot ((hhigh _).2 (by omega))

theorem InOrder.reads {c : Changes} {first : Bool} {year : Int} (h : c.InOrder first year)
    (hlow : c.low < c.high) (t : Int) : c.Reads t (c.read t) := by
  cases first with
  | true => exact h.reads_forward hlow t
  | false => exact h.reads_back hlow t

end Changes

theorem DateTime.year_bounds {t : DateTime} (h : t.IsValid) :
    yearStart t.date.year ≤ t.second ∧ t.second < yearStart (t.date.year + 1) := by
  refine ⟨?_, second_lt h⟩
  obtain ⟨hdate, -⟩ := h
  unfold Date.isValid at hdate
  split at hdate
  · simp only [Bool.and_eq_true, decide_eq_true_eq] at hdate
    unfold yearStart second Date.number
    omega
  · rw [Bool.and_false] at hdate
    cases hdate

namespace Zone

def offsets : Zone → List Int
  | fixed offset => [offset]
  | alternating standard daylight _ _ => [standard, daylight]

def changes? : Zone → Option (Int → Changes)
  | fixed _ => none
  | alternating standard daylight start finish =>
    let startsFirst year := decide ((start.day.date year).month < (finish.day.date year).month)
    if standard < daylight then
      some fun year =>
        ⟨standard, daylight, start.second year, finish.second year, startsFirst year⟩
    else if daylight < standard then
      some fun year =>
        ⟨daylight, standard, finish.second year, start.second year, !startsFirst year⟩
    else
      none

def changesIn? (zone : Zone) (year : Int) : Option Changes :=
  zone.changes?.map (· year)

/-- The clock stays within a day of universal time, and its changes are in order in the year and in
the years before and after. -/
def InOrder (zone : Zone) (year : Int) : Prop :=
  (∀ offset ∈ zone.offsets, isOffset offset = true) ∧
    ∀ changes ∈ zone.changes?, ∃ forwardFirst, ∀ y ∈ [year - 1, year, year + 1],
      (changes y).InOrder forwardFirst y

def shown (zone : Zone) (second : Int) (nanosecond : Nat) : DateTime :=
  .ofSecond (second + zone.offsetAt second) nanosecond

def Skips (zone : Zone) (typed : DateTime) : Prop :=
  ∀ second nanosecond, zone.shown second nanosecond ≠ typed

/-- The reading is the first second that the clock skips, in a year in which it goes forward first. -/
def IsFirstSkipped (zone : Zone) (typed : DateTime) : Prop :=
  ∃ c ∈ zone.changesIn? typed.date.year, c.IsFirstSkipped typed.second

theorem offsetAt_mem_offsets (zone : Zone) (second : Int) : zone.offsetAt second ∈ zone.offsets := by
  cases zone with
  | fixed offset => exact List.mem_singleton_self _
  | alternating standard daylight start finish =>
    rw [offsetAt]
    split <;> simp [offsets]

section InDaylight

variable {start finish : Int → Int} {year y t : Int}

/-- Where daylight saving starts and finishes within each year, it is in force between. -/
theorem inDaylight_iff_of_le (hy : y = year - 1 ∨ y = year ∨ y = year + 1)
    (horder : ∀ y ∈ [year - 1, year, year + 1], start y ≤ finish y)
    (hbefore : finish (year - 1) ≤ t) (hafter : t < start (year + 1)) :
    inDaylight start finish y t = true ↔ start year ≤ t ∧ t < finish year := by
  simp only [List.forall_mem_cons, List.not_mem_nil, false_implies, implies_true, and_true] at horder
  obtain ⟨hprevious, hyear, hnext⟩ := horder
  rcases hy with rfl | rfl | rfl
  · simp only [inDaylight, if_pos hprevious, Int.sub_add_cancel]
    split <;> simp <;> omega
  · simp only [inDaylight, if_pos hyear]
    split <;> simp <;> omega
  · simp only [inDaylight, if_pos hnext, Int.add_sub_cancel]
    split <;> simp <;> omega

/-- Where daylight saving finishes before it starts in each year, it is in force outside. -/
theorem inDaylight_iff_of_lt (hy : y = year - 1 ∨ y = year ∨ y = year + 1)
    (horder : ∀ y ∈ [year - 1, year, year + 1], finish y < start y)
    (hbefore : start (year - 1) ≤ t) (hafter : t < finish (year + 1)) :
    inDaylight start finish y t = true ↔ t < finish year ∨ start year ≤ t := by
  simp only [List.forall_mem_cons, List.not_mem_nil, false_implies, implies_true, and_true] at horder
  obtain ⟨hprevious, hyear, hnext⟩ := horder
  rcases hy with rfl | rfl | rfl
  · simp only [inDaylight, if_neg (not_le.2 hprevious), Int.sub_add_cancel]
    split <;> simp <;> omega
  · simp only [inDaylight, if_neg (not_le.2 hyear)]
    split <;> simp <;> omega
  · simp only [inDaylight, if_neg (not_le.2 hnext), Int.add_sub_cancel]
    split <;> simp <;> omega

end InDaylight

/-- Within a day of a local year, universal time is in that year or in one beside it. -/
theorem year_ofNumber_near {year t : Int} (hfirst : DateTime.yearStart year - 86400 ≤ t)
    (hlast : t < DateTime.yearStart (year + 1) + 86400) :
    (Date.ofNumber (t / 86400)).year = year - 1 ∨ (Date.ofNumber (t / 86400)).year = year ∨
      (Date.ofNumber (t / 86400)).year = year + 1 := by
  have hle : daysBeforeYear (Date.ofNumber (t / 86400)).year ≤ t / 86400 + daysBeforeYear 1970 :=
    Date.yearOf_le _
  have hlt : t / 86400 + daysBeforeYear 1970 < daysBeforeYear ((Date.ofNumber (t / 86400)).year + 1) :=
    Date.lt_yearOf_succ _
  have hlength (y : Int) : 365 ≤ yearLength y := by
    unfold yearLength
    split <;> omega
  unfold DateTime.yearStart at hfirst hlast
  by_contra hnot
  rcases lt_or_gt_of_ne (show (Date.ofNumber (t / 86400)).year ≠ year by omega) with hless | hmore
  · have hmono := daysBeforeYear_mono (show (Date.ofNumber (t / 86400)).year + 1 ≤ year - 1 by omega)
    have hyear := daysBeforeYear_succ (year - 1)
    have := hlength (year - 1)
    rw [Int.sub_add_cancel] at hyear
    omega
  · have hmono := daysBeforeYear_mono (show year + 1 + 1 ≤ (Date.ofNumber (t / 86400)).year by omega)
    have hyear := daysBeforeYear_succ (year + 1)
    have := hlength (year + 1)
    omega

section InOrder

variable {zone : Zone} {changes : Int → Changes} {c : Changes} {year t offset : Int}

/-- Changes in order in three years, with the same two offsets in each of them. -/
theorem inDaylight_iff_isHigh {y low high : Int} {forwardFirst : Bool}
    (horder : ∀ y ∈ [year - 1, year, year + 1], (changes y).InOrder forwardFirst y)
    (hoffsets : ∀ y, (changes y).low = low ∧ (changes y).high = high) (hlow : low < high)
    (hoffset : offset = low ∨ offset = high)
    (ht : DateTime.yearStart year ≤ t ∧ t < DateTime.yearStart (year + 1))
    (hy : y = year - 1 ∨ y = year ∨ y = year + 1) :
    (inDaylight (fun y => (changes y).forward - low) (fun y => (changes y).back - high) y
      (t - offset) = true ↔ (changes year).IsHigh (t - offset)) ∧
    (inDaylight (fun y => (changes y).back - high) (fun y => (changes y).forward - low) y
      (t - offset) = true ↔ ¬ (changes year).IsHigh (t - offset)) := by
  have hflag := (horder year (by simp)).1
  have hprevious := (horder (year - 1) (by simp)).2
  have hnext := (horder (year + 1) (by simp)).2
  simp only [Changes.InOrder, Changes.jump, hoffsets] at horder hprevious hnext
  rw [Int.sub_add_cancel] at hprevious
  cases forwardFirst with
  | true =>
    have hlt : ∀ y ∈ [year - 1, year, year + 1],
        (changes y).forward - low < (changes y).back - high := by
      intro y hy
      have := (horder y hy).2.1 rfl
      omega
    have hbefore := (hprevious.1 rfl).2.2
    have hafter := (hnext.1 rfl).1
    rw [inDaylight_iff_of_le hy (fun y hy => (hlt y hy).le) (by omega) (by omega),
      inDaylight_iff_of_lt hy hlt (by omega) (by omega)]
    simp only [Changes.IsHigh, hflag, hoffsets, if_true, true_and]
    omega
  | false =>
    have hlt : ∀ y ∈ [year - 1, year, year + 1],
        (changes y).back - high < (changes y).forward - low := by
      intro y hy
      have := (horder y hy).2.2 rfl
      omega
    have hbefore := (hprevious.2 rfl).2.2
    have hafter := (hnext.2 rfl).1
    rw [inDaylight_iff_of_lt hy hlt (by omega) (by omega),
      inDaylight_iff_of_le hy (fun y hy => (hlt y hy).le) (by omega) (by omega)]
    simp only [Changes.IsHigh, hflag, hoffsets, Bool.false_eq_true, if_false, true_and]
    omega

/-- What the changes of a zone are made of, by which of its offsets is ahead. -/
theorem changes?_cases (h : zone.changes? = some changes) :
    ∃ standard daylight start finish, zone = alternating standard daylight start finish ∧
      (standard < daylight ∧ changes = (fun year => ⟨standard, daylight, start.second year,
          finish.second year, (start.day.date year).month < (finish.day.date year).month⟩) ∨
        daylight < standard ∧ changes = fun year => ⟨daylight, standard, finish.second year,
          start.second year, !decide ((start.day.date year).month < (finish.day.date year).month)⟩) := by
  cases zone with
  | fixed offset => cases h
  | alternating standard daylight start finish =>
    refine ⟨standard, daylight, start, finish, rfl, ?_⟩
    simp only [changes?] at h
    split_ifs at h with hlt hgt
    · exact .inl ⟨hlt, (Option.some.inj h).symm⟩
    · exact .inr ⟨hgt, (Option.some.inj h).symm⟩

/-- The two offsets of the changes are those of the zone. -/
theorem mem_offsets_iff (h : zone.changesIn? year = some c) :
    c.low < c.high ∧ ∀ offset, offset ∈ zone.offsets ↔ offset = c.low ∨ offset = c.high := by
  obtain ⟨changes, hchanges, rfl⟩ := Option.map_eq_some_iff.1 h
  obtain ⟨standard, daylight, start, finish, rfl, ⟨hlt, rfl⟩ | ⟨hlt, rfl⟩⟩ := changes?_cases hchanges
  · simp [offsets, hlt]
  · simp [offsets, hlt, or_comm]

/-- In a zone whose changes are in order, the offset in force follows from the changes of the local
year. -/
theorem offsetAt_eq (hzone : zone.InOrder year) (h : zone.changesIn? year = some c)
    (ht : DateTime.yearStart year ≤ t ∧ t < DateTime.yearStart (year + 1))
    (hoffset : offset = c.low ∨ offset = c.high) :
    zone.offsetAt (t - offset) = if c.IsHigh (t - offset) then c.high else c.low := by
  have hday := hzone.1 offset (((mem_offsets_iff h).2 offset).2 hoffset)
  simp only [isOffset, Bool.and_eq_true, decide_eq_true_eq] at hday
  have hnear := year_ofNumber_near (show DateTime.yearStart year - 86400 ≤ t - offset by omega)
    (by omega)
  obtain ⟨changes, hchanges, rfl⟩ := Option.map_eq_some_iff.1 h
  obtain ⟨forwardFirst, horder⟩ := hzone.2 changes hchanges
  obtain ⟨standard, daylight, start, finish, rfl, ⟨hlt, rfl⟩ | ⟨hlt, rfl⟩⟩ := changes?_cases hchanges
  · have hiff := (inDaylight_iff_isHigh horder (fun _ => ⟨rfl, rfl⟩) hlt hoffset ht hnear).1
    simp only [offsetAt, hiff]
  · have hiff := (inDaylight_iff_isHigh horder (fun _ => ⟨rfl, rfl⟩) hlt hoffset ht hnear).2
    simp only [offsetAt, hiff, ite_not]

theorem offsetsOf_eq_read {typed : DateTime} (h : zone.changesIn? typed.date.year = some c) :
    zone.offsetsOf typed = c.read typed.second := by
  obtain ⟨changes, hchanges, rfl⟩ := Option.map_eq_some_iff.1 h
  obtain ⟨standard, daylight, start, finish, rfl, ⟨hlt, rfl⟩ | ⟨hlt, rfl⟩⟩ := changes?_cases hchanges
  · simp only [offsetsOf, if_neg hlt.ne, if_pos hlt, Changes.read, Changes.jump, decide_eq_true_eq]
    split <;> rfl
  · simp only [offsetsOf, if_neg hlt.ne', if_neg hlt.not_gt, Changes.read, Changes.jump,
      Bool.not_eq_true', decide_eq_false_iff_not, ite_not]
    split <;> rfl

theorem exists_offset_of_changes?_eq_none (h : zone.changes? = none) :
    ∃ offset ∈ zone.offsets, (∀ typed, zone.offsetsOf typed = .once offset) ∧
      ∀ second, zone.offsetAt second = offset := by
  cases zone with
  | fixed offset => exact ⟨offset, List.mem_singleton_self _, fun _ => rfl, fun _ => rfl⟩
  | alternating standard daylight start finish =>
    have heq : standard = daylight := by
      by_contra hne
      rcases lt_or_gt_of_ne hne with hlt | hlt
      · simp [changes?, hlt] at h
      · simp [changes?, hlt, hlt.not_gt] at h
    refine ⟨standard, List.mem_cons_self, fun typed => ?_, fun second => ?_⟩
    · rw [offsetsOf]
      exact if_pos heq
    · rw [offsetAt]
      split
      · exact heq.symm
      · rfl

def readOffset? (zone : Zone) (typed : DateTime) : Option Int :=
  match zone.offsetsOf typed with
  | .skipped => none
  | .once offset => some offset
  | .twice first _ => some first

/-- The local clock shows a reading exactly when one of its offsets is in force at the instant that the
reading would be with that offset. -/
theorem skips_iff {typed : DateTime} (h : typed.IsValid) :
    zone.Skips typed ↔ ∀ offset ∈ zone.offsets,
      zone.offsetAt (typed.second - offset) ≠ offset := by
  have hshown (offset : Int) (hoffset : zone.offsetAt (typed.second - offset) = offset) :
      zone.shown (typed.second - offset) typed.time.nanosecond = typed := by
    rw [shown, hoffset, Int.sub_add_cancel, DateTime.ofSecond_second h]
  constructor
  · intro hskips offset _ hoffset
    exact hskips _ _ (hshown offset hoffset)
  · rintro hnot second nanosecond rfl
    refine hnot (zone.offsetAt second) (zone.offsetAt_mem_offsets _) ?_
    rw [shown, DateTime.second_ofSecond, Int.add_sub_cancel]

variable {typed : DateTime}

/-- When the clock is changed in order, a reading is skipped when neither offset is in force at the
instant that it would be with that offset. -/
theorem InOrder.skips_iff_isHigh (hzone : zone.InOrder typed.date.year) (htyped : typed.IsValid)
    (h : zone.changesIn? typed.date.year = some c) :
    zone.Skips typed ↔ c.IsHigh (typed.second - c.low) ∧ ¬ c.IsHigh (typed.second - c.high) := by
  obtain ⟨hlow, hmem⟩ := mem_offsets_iff h
  have ht := DateTime.year_bounds htyped
  simp only [skips_iff htyped, hmem, forall_eq_or_imp, forall_eq, offsetAt_eq hzone h ht (.inl rfl),
    offsetAt_eq hzone h ht (.inr rfl)]
  refine and_congr ?_ ?_
  · split <;> simp [hlow.ne', *]
  · split <;> simp [hlow.ne, *]

theorem InOrder.reads (hzone : zone.InOrder typed.date.year)
    (h : zone.changesIn? typed.date.year = some c) : c.Reads typed.second (zone.offsetsOf typed) := by
  rw [offsetsOf_eq_read h]
  have hlow := (mem_offsets_iff h).1
  obtain ⟨changes, hchanges, rfl⟩ := Option.map_eq_some_iff.1 h
  obtain ⟨forwardFirst, horder⟩ := hzone.2 changes hchanges
  exact (horder typed.date.year (by simp)).reads hlow _

/-- The readings that the clock skips are those that are refused, and the first second that it skips. -/
theorem InOrder.skips_iff (hzone : zone.InOrder typed.date.year) (htyped : typed.IsValid) :
    zone.Skips typed ↔ zone.readOffset? typed = none ∨ zone.IsFirstSkipped typed := by
  cases h : zone.changesIn? typed.date.year with
  | none =>
    obtain ⟨offset, hmem, hread, hforce⟩ := exists_offset_of_changes?_eq_none (Option.map_eq_none_iff.1 h)
    have hshown : ¬ zone.Skips typed := fun hskips =>
      (Zone.skips_iff htyped).1 hskips offset hmem (hforce _)
    simp [hshown, readOffset?, hread, IsFirstSkipped, h]
  | some c =>
    have hreads := hzone.reads h
    simp only [hzone.skips_iff_isHigh htyped h, readOffset?, IsFirstSkipped, h, Option.mem_some,
      exists_eq_left']
    generalize zone.offsetsOf typed = offsets at hreads
    cases hreads <;> simp [*]

/-- A time that is not the first second skipped is read with the offset in force. -/
theorem InOrder.offsetAt_eq_of_readOffset? (hzone : zone.InOrder typed.date.year)
    (htyped : typed.IsValid) (hread : zone.readOffset? typed = some offset)
    (hfirst : ¬ zone.IsFirstSkipped typed) : zone.offsetAt (typed.second - offset) = offset := by
  cases h : zone.changesIn? typed.date.year with
  | none =>
    obtain ⟨other, -, hother, hforce⟩ := exists_offset_of_changes?_eq_none (Option.map_eq_none_iff.1 h)
    obtain rfl : other = offset := by simpa [readOffset?, hother] using hread
    exact hforce _
  | some c =>
    have ht := DateTime.year_bounds htyped
    have hreads := hzone.reads h
    simp only [IsFirstSkipped, h, Option.mem_some, exists_eq_left'] at hfirst
    unfold readOffset? at hread
    generalize zone.offsetsOf typed = offsets at hreads hread
    cases hreads with
    | skipped => cases hread
    | first hbad => exact absurd hbad hfirst
    | low _ hlow | twice _ hlow =>
      obtain rfl := Option.some.inj hread
      rw [offsetAt_eq hzone h ht (.inl rfl), if_neg hlow]
    | high _ hhigh =>
      obtain rfl := Option.some.inj hread
      rw [offsetAt_eq hzone h ht (.inr rfl), if_pos hhigh]

/-- The first second skipped is read with the offset before the change, and the offset after the change
is in force then. -/
theorem InOrder.offsetAt_of_first (hzone : zone.InOrder typed.date.year) (htyped : typed.IsValid)
    (h : zone.changesIn? typed.date.year = some c) (hfirst : c.IsFirstSkipped typed.second) :
    zone.readOffset? typed = some c.low ∧ zone.offsetAt (typed.second - c.low) = c.high := by
  have ht := DateTime.year_bounds htyped
  have hreads := hzone.reads h
  unfold readOffset?
  generalize zone.offsetsOf typed = offsets at hreads
  cases hreads with
  | first _ hhigh => exact ⟨rfl, by rw [offsetAt_eq hzone h ht (.inl rfl), if_pos hhigh]⟩
  | skipped hnot | low hnot | twice hnot | high hnot => exact absurd hfirst hnot

/-- The times that cannot be read are those that the clock skips, but for the first second. -/
theorem InOrder.readOffset?_eq_none_iff (hzone : zone.InOrder typed.date.year)
    (htyped : typed.IsValid) :
    zone.readOffset? typed = none ↔ zone.Skips typed ∧ ¬ zone.IsFirstSkipped typed := by
  rw [hzone.skips_iff htyped]
  constructor
  · intro hnone
    refine ⟨.inl hnone, ?_⟩
    rintro ⟨c, hc, hfirst⟩
    rw [(hzone.offsetAt_of_first htyped hc hfirst).1] at hnone
    cases hnone
  · rintro ⟨hskips, hfirst⟩
    exact hskips.resolve_right hfirst

end InOrder

end Zone

end EventText
