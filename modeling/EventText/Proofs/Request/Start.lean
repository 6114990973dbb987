import EventText.CommandLine.Report
import EventText.Proofs.Request.Produced
import EventText.Proofs.Time.Seasons
import EventText.Proofs.Time.Typed

/-! The start of an event, from the time that is typed to the time that is shown. The title is made for
the time of day that was typed, and the line of the report shows the time that was typed as far as the
two ways between local time and instants agree (`startLine_typed`). -/

namespace EventText

namespace Zone

variable {zone : Zone} {typed : DateTime} {start : OffsetInstant}

theorem instantAt?_of_instantOf? (h : zone.instantOf? typed = some start) :
    ∃ offset, zone.readOffset? typed = some offset ∧ instantAt? typed offset = some start := by
  unfold instantOf? at h
  unfold readOffset?
  generalize zone.offsetsOf typed = offsets at h ⊢
  cases offsets with
  | skipped => cases h
  | once offset => exact ⟨offset, rfl, h⟩
  | twice first second =>
    obtain ⟨t, ht, h⟩ := Option.bind_eq_some_iff.1 h
    obtain ⟨-, -, h⟩ := Option.bind_eq_some_iff.1 h
    obtain rfl := Option.some.inj h
    exact ⟨first, rfl, ht⟩

theorem instantOf?_eq_none (h : zone.readOffset? typed = none) : zone.instantOf? typed = none := by
  unfold readOffset? at h
  unfold instantOf?
  generalize zone.offsetsOf typed = offsets at h ⊢
  cases offsets with
  | skipped => rfl
  | once offset => cases h
  | twice first second => cases h

theorem reading_of_instantAt? {offset : Int} (htyped : typed.IsValid)
    (h : instantAt? typed offset = some start) : start.reading = typed := by
  have hoffset : start.offset = offset := by
    unfold instantAt? at h
    split at h
    · obtain ⟨s, -, rfl⟩ := Option.map_eq_some_iff.1 h
      rfl
    · cases h
  obtain ⟨hsecond, hnanosecond⟩ := instant_of_instantAt? h
  rw [OffsetInstant.reading, Instant.reading, hsecond, hnanosecond, hoffset, Int.sub_add_cancel,
    DateTime.ofSecond_second htyped]

/-- In the years between the first and the last, every time is within the range of the clock. -/
theorem exists_instantAt? {offset : Int} (htyped : typed.IsValid)
    (hnanosecond : typed.time.nanosecond = 0) (hfirst : Date.firstYear < typed.date.year)
    (hlast : typed.date.year < Date.lastYear) (hoffset : isOffset offset = true) :
    ∃ start, instantAt? typed offset = some start := by
  have hbounds : Instant.firstSecond + 86400 ≤ DateTime.yearStart (Date.firstYear + 1) ∧
      DateTime.yearStart Date.lastYear + 86400 ≤ Instant.lastSecond := by decide
  have hyear := DateTime.year_bounds htyped
  have hmono := DateTime.yearStart_mono (show Date.firstYear + 1 ≤ typed.date.year by omega)
  have hmono' := DateTime.yearStart_mono (show typed.date.year + 1 ≤ Date.lastYear by omega)
  have hday := hoffset
  simp only [isOffset, Bool.and_eq_true, decide_eq_true_eq] at hday
  have hrange : Instant.ofReading? typed offset ≠ none := by
    rw [Instant.ofReading?, ne_eq, Instant.ofSecond?_eq_none_iff]
    omega
  obtain ⟨t, ht⟩ := Option.ne_none_iff_exists'.1 hrange
  rw [instantAt?, if_pos hoffset, ht]
  exact ⟨_, rfl⟩

/-- A time that is read with an offset is taken in those years. -/
theorem InOrder.exists_instantOf? {offset : Int} (hzone : zone.InOrder typed.date.year)
    (htyped : typed.IsValid) (hnanosecond : typed.time.nanosecond = 0)
    (hfirst : Date.firstYear < typed.date.year) (hlast : typed.date.year < Date.lastYear)
    (hread : zone.readOffset? typed = some offset) :
    ∃ start, zone.instantOf? typed = some start := by
  have hinstant {offset : Int} (hmem : offset ∈ zone.offsets) :=
    exists_instantAt? htyped hnanosecond hfirst hlast (hzone.1 offset hmem)
  unfold instantOf?
  unfold readOffset? at hread
  cases h : zone.changesIn? typed.date.year with
  | none =>
    obtain ⟨other, hmem, hother, -⟩ := exists_offset_of_changes?_eq_none (Option.map_eq_none_iff.1 h)
    rw [hother]
    exact hinstant hmem
  | some c =>
    have hlow := hinstant (((mem_offsets_iff h).2 c.low).2 (.inl rfl))
    have hhigh := hinstant (((mem_offsets_iff h).2 c.high).2 (.inr rfl))
    have hreads := hzone.reads h
    generalize zone.offsetsOf typed = offsets at hreads hread
    cases hreads with
    | skipped => cases hread
    | first | low => exact hlow
    | twice =>
      obtain ⟨start, hstart⟩ := hlow
      obtain ⟨other, hother⟩ := hhigh
      exact ⟨start, by simp [hstart, hother]⟩
    | high => exact hhigh

theorem readTime_of_readLocal? {input : Text} (h : readLocal? input.trim = some typed) :
    zone.readTime input =
      (zone.instantOf? typed).elim (.error (.failed (.user (.skippedTime input.trim)))) .ok := by
  simp only [readTime, readRfc3339?_of_readLocal? h, h]
  cases zone.instantOf? typed with
  | none => rfl
  | some start => rfl

/-- What the clock shows at the instant that a time was taken for is written as the time was typed
exactly when the offset in force is ahead of the one that it was read with by less than a minute. -/
theorem toMinute_shown_iff (zone : Zone) (htyped : typed.IsValid) (hwhole : typed.time.second = 0)
    (offset : Int) (nanosecond : Nat) :
    (zone.shown (typed.second - offset) nanosecond).toMinute = typed.toMinute ↔
      0 ≤ zone.offsetAt (typed.second - offset) - offset ∧
        zone.offsetAt (typed.second - offset) - offset < 60 := by
  have hminute : typed.second % 60 = 0 := by
    simp only [DateTime.second, hwhole]
    omega
  have hwritten : typed.toMinute = (DateTime.ofSecond typed.second typed.time.nanosecond).toMinute := by
    rw [DateTime.ofSecond_second htyped]
  rw [shown, hwritten, DateTime.toMinute_ofSecond_eq_iff]
  omega

end Zone

namespace Report

def startLine (shown : DateTime) : Text :=
  "Start:  ".toList ++ shown.toMinute

theorem startLine_inj {a b : DateTime} : startLine a = startLine b ↔ a.toMinute = b.toMinute :=
  List.append_right_inj _

def startLine? (zone : Zone) (prepared : Prepared) : Option Text :=
  (ofEvent? zone prepared).bind (·.output[1]?)

/-- There is a line unless the clock strays at the start or at the end. -/
theorem startLine?_eq_some_iff {zone : Zone} {prepared : Prepared} {line : Text} :
    startLine? zone prepared = some line ↔
      startLine (zone.shown prepared.event.start.second prepared.event.start.nanosecond) = line ∧
        ¬ zone.Strays prepared.event.start.second ∧ ¬ zone.Strays prepared.event.finish.second := by
  by_cases hstart : zone.Strays prepared.event.start.second
  · have hnone : startLine? zone prepared = none := by
      rw [startLine?, ofEvent?, Zone.clockAt?_eq_none_iff.2 hstart]
      rfl
    simp [hnone, hstart]
  · by_cases hfinish : zone.Strays prepared.event.finish.second
    · have hnone : startLine? zone prepared = none := by
        rw [startLine?, ofEvent?, Zone.clockAt?_eq_none_iff.2 hfinish]
        cases zone.clockAt? prepared.event.start <;> rfl
      simp [hnone, hfinish]
    · have hclock {t : Instant} (h : ¬ zone.Strays t.second) :
          zone.clockAt? t = some ⟨t, zone.offsetAt t.second⟩ :=
        if_pos (by simpa [Zone.Strays] using h)
      simp only [startLine?, ofEvent?, hclock hstart, hclock hfinish, hstart, hfinish, not_false_iff,
        and_true]
      exact Option.some_inj

end Report

namespace Request

variable {request : Request} {catalog : Catalog} {config : Config} {zone : Zone} {source : Generator}
  {typed : DateTime}

theorem start_of_times {start finish : OffsetInstant}
    (htyped : readLocal? request.start.trim = some typed)
    (h : request.times config zone = .ok (start, finish)) :
    ∃ offset, zone.readOffset? typed = some offset ∧ instantAt? typed offset = some start := by
  simp only [times, bind_eq_ok_iff] at h
  obtain ⟨first, hfirst, last, -, h⟩ := h
  split at h
  · cases h
  · obtain ⟨rfl, -⟩ := Prod.mk.inj (Except.ok.inj h)
    rw [Zone.readTime_of_readLocal? htyped] at hfirst
    cases hinstant : zone.instantOf? typed with
    | none =>
      rw [hinstant] at hfirst
      cases hfirst
    | some start =>
      rw [hinstant] at hfirst
      obtain rfl := Except.ok.inj hfirst
      exact Zone.instantAt?_of_instantOf? hinstant

/-- A start that is refused is the first thing that a request with a preset and a title is refused
for. -/
theorem prepare_of_readTime_eq_error {cause : Stop} {p : Preset}
    (hp : catalog.find? request.preset = some p) (htitle : (request.title.getD p.title).trim ≠ [])
    (h : zone.readTime request.start = .error cause) :
    request.prepare catalog config zone source = .error cause := by
  have htemplate : request.titleTemplate p = .ok (request.title.getD p.title) := by
    simp [titleTemplate, htitle]
  have htimes : request.times config zone = .error cause := by
    rw [times, h]
    rfl
  rw [prepare, lookup_eq_ok_iff.2 hp]
  change (request.titleTemplate p >>= _) = _
  rw [htemplate]
  change (request.times config zone >>= _) = _
  rw [htimes]
  rfl

structure Keeps (request : Request) (catalog : Catalog) (config : Config) (zone : Zone)
    (typed : DateTime) (prepared : Prepared) : Prop where
  /-- The title is made for the time of day that is typed. -/
  title : ∃ p r, catalog.find? request.preset = some p ∧ request.resolver config = .ok r ∧
    prepared.event.title = r.resolveTitle p (request.title.getD p.title)
      (request.description.getD p.description) typed.time
  /-- The start is shown as it is typed exactly when the offset that it is read with is the one in
  force, up to the seconds of a minute. -/
  line_iff : ∃ offset, zone.readOffset? typed = some offset ∧
    prepared.event.start.second = typed.second - offset ∧ prepared.event.start.nanosecond = 0 ∧
    (Report.startLine? zone prepared = some (Report.startLine typed) ↔
      (0 ≤ zone.offsetAt (typed.second - offset) - offset ∧
        zone.offsetAt (typed.second - offset) - offset < 60) ∧
      ¬ zone.Strays prepared.event.start.second ∧ ¬ zone.Strays prepared.event.finish.second)
  /-- That is so when the changes of the clock are in order, except for the first second skipped. -/
  line : zone.InOrder typed.date.year → ¬ zone.IsFirstSkipped typed →
    Report.startLine? zone prepared = some (Report.startLine typed)
  /-- The first second skipped is shown as what the clock shows instead. -/
  line_first : zone.InOrder typed.date.year → ∀ c ∈ zone.changesIn? typed.date.year,
    c.IsFirstSkipped typed.second → Report.startLine? zone prepared =
      some (Report.startLine (.ofSecond (typed.second + c.jump) 0))

theorem keeps_of_prepare (htyped : readLocal? request.start.trim = some typed) {prepared : Prepared}
    (h : request.prepare catalog config zone source = .ok prepared) :
    request.Keeps catalog config zone typed prepared := by
  obtain ⟨hvalid, hwhole, hnano⟩ := typed_of_readLocal? htyped
  obtain ⟨p, hp, -, start, finish, htimes, r, hr, description, hevent⟩ := prepare_eq_ok h
  obtain ⟨offset, hread, hinstant⟩ := start_of_times htyped htimes
  have hreading := Zone.reading_of_instantAt? hvalid hinstant
  have hstart : prepared.event.start.second = typed.second - offset ∧
      prepared.event.start.nanosecond = 0 := by
    rw [hevent, ← hnano]
    exact instant_of_instantAt? hinstant
  have hnot (hzone : zone.InOrder typed.date.year) (second : Int) : ¬ zone.Strays second := by
    simp [Zone.Strays, hzone.1 _ (zone.offsetAt_mem_offsets second)]
  have hline (hzone : zone.InOrder typed.date.year) : Report.startLine? zone prepared =
      some (Report.startLine (zone.shown (typed.second - offset) 0)) :=
    Report.startLine?_eq_some_iff.2 ⟨by rw [hstart.1, hstart.2], hnot hzone _, hnot hzone _⟩
  have hminute := zone.toMinute_shown_iff hvalid hwhole offset 0
  refine ⟨⟨p, r, hp, hr, by rw [hevent, Event.ofTexts, hreading]⟩, 
    ⟨offset, hread, hstart.1, hstart.2, ?_⟩, ?_, ?_⟩
  · rw [Report.startLine?_eq_some_iff, Report.startLine_inj, hstart.1, hstart.2, hminute]
  · intro hzone hfirst
    have hforce := hzone.offsetAt_eq_of_readOffset? hvalid hread hfirst
    rw [hline hzone, Option.some_inj, Report.startLine_inj, hminute, hforce, Int.sub_self]
    decide
  · intro hzone c hc hfirst
    obtain ⟨hlow, hhigh⟩ := hzone.offsetAt_of_first hvalid hc hfirst
    obtain rfl : offset = c.low := Option.some.inj (hread.symm.trans hlow)
    have hsecond : typed.second - c.low + c.high = typed.second + c.jump := by
      rw [Changes.jump]
      omega
    rw [hline hzone, Zone.shown, hhigh, hsecond]

/-- A start that is typed as a time of the local clock is kept, as far as `Keeps` says. Where the
changes of the clock are in order it is refused when the clock skips it and it is not the first second
that it skips in a year in which it goes forward first; in the years between the first and the last all
other times are taken. -/
theorem startLine_typed (htyped : readLocal? request.start.trim = some typed) (zone : Zone) :
    (∀ catalog config source prepared, request.prepare catalog config zone source = .ok prepared →
      request.Keeps catalog config zone typed prepared) ∧
    (zone.InOrder typed.date.year → zone.Skips typed ∧ ¬ zone.IsFirstSkipped typed →
      ∀ catalog config source p, catalog.find? request.preset = some p →
        (request.title.getD p.title).trim ≠ [] →
        request.prepare catalog config zone source =
          .error (.failed (.user (.skippedTime request.start.trim)))) ∧
    (zone.InOrder typed.date.year → Date.firstYear < typed.date.year →
      typed.date.year < Date.lastYear → ¬ (zone.Skips typed ∧ ¬ zone.IsFirstSkipped typed) →
      ∃ start, zone.readTime request.start = .ok start) := by
  obtain ⟨hvalid, -, hnanosecond⟩ := typed_of_readLocal? htyped
  refine ⟨fun catalog config source prepared => keeps_of_prepare htyped, ?_, ?_⟩
  · intro hzone hskips catalog config source p hp htitle
    have hread := (hzone.readOffset?_eq_none_iff hvalid).2 hskips
    refine prepare_of_readTime_eq_error hp htitle ?_
    rw [Zone.readTime_of_readLocal? htyped, Zone.instantOf?_eq_none hread, Option.elim_none]
  · intro hzone hlower hupper hnot
    have hread := mt (hzone.readOffset?_eq_none_iff hvalid).1 hnot
    obtain ⟨offset, hoffset⟩ := Option.ne_none_iff_exists'.1 hread
    obtain ⟨start, hstart⟩ := hzone.exists_instantOf? hvalid hnanosecond hlower hupper hoffset
    exact ⟨start, by rw [Zone.readTime_of_readLocal? htyped, hstart, Option.elim_some]⟩

/-- Half an hour is shown twice in the one night, and skipped in the other. -/
theorem startLine_typed_half_hour :
    let dinner (start : Text) : Request :=
      { preset := "dinner".toList, start := start, description := some [] }
    ∃ zone, Zone.ofText? "LHST-10:30LHDT-11,M10.1.0,M4.1.0".toList = some zone ∧
      (∃ prepared, (dinner "2026-4-5 1:45".toList).prepare Catalog.builtin default zone
          (.script ⟨[]⟩) = .ok prepared ∧
        Report.startLine? zone prepared = some "Start:  2026-04-05 01:45".toList) ∧
      (dinner "2026-10-04T02:00".toList).prepare Catalog.builtin default zone (.script ⟨[]⟩) =
        .error (.failed (.user (.skippedTime "2026-10-04T02:00".toList))) := by
  intro dinner
  let zone := Zone.alternating 37800 39600 ⟨.weekday 10 1 0, 7200⟩ ⟨.weekday 4 1 0, 7200⟩
  have hzone : Zone.ofText? "LHST-10:30LHDT-11,M10.1.0,M4.1.0".toList = some zone := by
    decide +kernel
  have horder (year : Int) : zone.InOrder year :=
    Zone.inOrder_of_ofText? hzone (by decide)
      (.inr fun y => show 2 ≤ 4 ∧ 4 + 1 < 10 ∧ 10 ≤ 11 by decide) year
  have hnot (typed : DateTime) : ¬ zone.IsFirstSkipped typed := by
    rintro ⟨c, hc, hflag, -⟩
    obtain rfl := Option.some.inj hc
    cases hflag
  refine ⟨zone, hzone, ?_, ?_⟩
  · let prepared : Prepared :=
      { event := ⟨.create, none, "🍴 Dinner Date".toList, [], .mk 1775315700 0, .mk 1775319300 0⟩
        warnings := [] }
    have hprepared : (dinner "2026-4-5 1:45".toList).prepare Catalog.builtin default zone
        (.script ⟨[]⟩) = .ok prepared := by decide +kernel
    have htyped : readLocal? (dinner "2026-4-5 1:45".toList).start.trim =
        some ⟨⟨2026, 4, 5⟩, ⟨1, 45, 0, 0⟩⟩ := by decide +kernel
    have hkeeps := (startLine_typed htyped zone).1 _ _ _ _ hprepared
    exact ⟨prepared, hprepared, hkeeps.line (horder _) (hnot _)⟩
  · have htyped : readLocal? (dinner "2026-10-04T02:00".toList).start.trim =
        some ⟨⟨2026, 10, 4⟩, ⟨2, 0, 0, 0⟩⟩ := by decide +kernel
    have hskips : zone.Skips ⟨⟨2026, 10, 4⟩, ⟨2, 0, 0, 0⟩⟩ :=
      ((horder _).skips_iff (typed_of_readLocal? htyped).1).2 (.inl (by decide +kernel))
    have hfound : (Catalog.builtin.find? "dinner".toList).any (!·.title.trim.isEmpty) = true := by
      decide +kernel
    obtain ⟨p, hp, hany⟩ := (Option.any_eq_true _ _).1 hfound
    have htitle : p.title.trim ≠ [] := by simpa using hany
    exact (startLine_typed htyped zone).2.1 (horder _) ⟨hskips, hnot _⟩ _ _ _ p hp htitle

/-- The first second of the hour that is skipped is not refused but shown as the hour after it. -/
theorem startLine_first_skipped :
    ∃ zone, Zone.ofText? "CET-1CEST,M3.5.0,M10.5.0/3".toList = some zone ∧
      readLocal? "2026-03-29 02:00".toList = some ⟨⟨2026, 3, 29⟩, ⟨2, 0, 0, 0⟩⟩ ∧
      zone.Skips ⟨⟨2026, 3, 29⟩, ⟨2, 0, 0, 0⟩⟩ ∧
      ∃ prepared, ({ preset := "gym".toList
                     start := "2026-03-29 02:00".toList
                     seed := some 1 } : Request).prepare Catalog.builtin default zone (.script ⟨[]⟩) =
          .ok prepared ∧
        Report.startLine? zone prepared = some "Start:  2026-03-29 03:00".toList := by
  let zone := Zone.alternating 3600 7200 ⟨.weekday 3 5 0, 7200⟩ ⟨.weekday 10 5 0, 10800⟩
  have hzone : Zone.ofText? "CET-1CEST,M3.5.0,M10.5.0/3".toList = some zone := by decide +kernel
  have horder (year : Int) : zone.InOrder year :=
    Zone.inOrder_of_ofText? hzone (by decide)
      (.inl fun y => show 2 ≤ 3 ∧ 3 + 1 < 10 ∧ 10 ≤ 11 by decide) year
  have htyped : readLocal? "2026-03-29 02:00".toList = some ⟨⟨2026, 3, 29⟩, ⟨2, 0, 0, 0⟩⟩ := by
    decide +kernel
  have hfirst : zone.IsFirstSkipped ⟨⟨2026, 3, 29⟩, ⟨2, 0, 0, 0⟩⟩ :=
    ⟨_, rfl, rfl, by decide +kernel⟩
  have hskips : zone.Skips ⟨⟨2026, 3, 29⟩, ⟨2, 0, 0, 0⟩⟩ :=
    ((horder _).skips_iff (isValid_of_readLocal? htyped).1).2 (.inr hfirst)
  let prepared : Prepared :=
    { event := ⟨.create, none, "🏋️ Gym Session".toList, [], .mk 1774746000 0, .mk 1774749600 0⟩
      warnings := [] }
  exact ⟨zone, hzone, htyped, hskips, prepared, by decide +kernel, by decide +kernel⟩

end Request

end EventText
