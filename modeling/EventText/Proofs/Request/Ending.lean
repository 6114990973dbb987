import EventText.Config.Yaml
import EventText.Proofs.Resolver.Total
import EventText.Proofs.Time.Reach
import EventText.Request

/-! When a request breaks off without a message. Its preset, its title and its texts never do that to
it: only its times can lie beyond the range of the clock, and only when the start has a plus sign or
the local clock is a day or more away from universal time. -/

namespace EventText

theorem bind_eq_error_iff {x : Except ε α} {f : α → Except ε β} {cause : ε} :
    x >>= f = .error cause ↔ x = .error cause ∨ ∃ a, x = .ok a ∧ f a = .error cause := by
  cases x <;> simp [Bind.bind, Except.bind]

theorem bind_eq_ok_iff {x : Except ε α} {f : α → Except ε β} {b : β} :
    x >>= f = .ok b ↔ ∃ a, x = .ok a ∧ f a = .ok b := by
  cases x <;> simp [Bind.bind, Except.bind]

namespace Zone

/-- The local clock is a day or more away from universal time. -/
def Strays (zone : Zone) (second : Int) : Prop :=
  isOffset (zone.offsetAt second) = false

def Loses (zone : Zone) (input : Text) : Prop :=
  ∃ t, readRfc3339? input.trim = some t ∧ zone.Strays t.instant.second

theorem clockAt?_eq_none_iff {zone : Zone} {t : Instant} :
    zone.clockAt? t = none ↔ zone.Strays t.second := by
  simp [clockAt?, Strays]

theorem readTime_eq_brokenOff_iff {zone : Zone} {input : Text} :
    zone.readTime input = .error .brokenOff ↔ zone.Loses input := by
  unfold readTime Loses
  cases readRfc3339? input.trim with
  | some t => cases hclock : zone.clockAt? t.instant <;> simp [← clockAt?_eq_none_iff, hclock]
  | none =>
    -- a reading of the local clock is refused with a message, or taken
    refine iff_of_false ?_ (by simp)
    dsimp only
    split
    · split <;> simp
    · simp

end Zone

namespace Request

/-- The requested end is lost; or none is requested, and the one that the configuration asks for is
beyond the range of the clock or one at which the local clock strays. -/
def LosesFinish (request : Request) (config : Config) (zone : Zone) (start : Instant) : Prop :=
  match request.finish with
  | some finish => zone.Loses finish
  | none =>
    Instant.lastSecond < start.second + config.minutes.toNat * 60 ∨
      zone.Strays (start.second + config.minutes.toNat * 60)

theorem finishAfter_eq_brokenOff_iff {request : Request} {config : Config} {zone : Zone}
    {start : OffsetInstant} :
    request.finishAfter config zone start = .error .brokenOff ↔
      request.LosesFinish config zone start.instant := by
  unfold finishAfter LosesFinish
  cases request.finish with
  | some finish => exact Zone.readTime_eq_brokenOff_iff
  | none =>
    have hnone := start.instant.addMinutes?_eq_none_iff config.minutes.toNat
    dsimp only
    rw [← hnone]
    cases hfinish : start.instant.addMinutes? config.minutes.toNat with
    | none => simp
    | some finish =>
      rw [← Instant.second_of_addMinutes? hfinish, ← Zone.clockAt?_eq_none_iff]
      cases hclock : zone.clockAt? finish <;> simp [hclock]

theorem times_eq_brokenOff_iff (request : Request) (config : Config) (zone : Zone) :
    request.times config zone = .error .brokenOff ↔
      zone.Loses request.start ∨ ∃ start, zone.readTime request.start = .ok start ∧
        request.LosesFinish config zone start.instant := by
  unfold times
  simp only [bind_eq_error_iff, Zone.readTime_eq_brokenOff_iff]
  refine or_congr_right (exists_congr fun start => and_congr_right fun _ => ?_)
  rw [finishAfter_eq_brokenOff_iff, or_iff_left_iff_imp]
  rintro ⟨finish, -, hend⟩
  split at hend <;> cases hend

theorem exists_titleTemplate_eq_ok_iff {request : Request} {p : Preset} {P : Text → Prop} :
    (∃ title, request.titleTemplate p = .ok title ∧ P title) ↔
      (request.title.getD p.title).trim ≠ [] ∧ P (request.title.getD p.title) := by
  unfold titleTemplate
  dsimp only
  split <;> simp_all

theorem titleTemplate_ne_brokenOff {request : Request} {p : Preset} :
    request.titleTemplate p ≠ .error .brokenOff := by
  unfold titleTemplate
  dsimp only
  split <;> simp

theorem lookup_ne_brokenOff {catalog : Catalog} {query : Text} :
    catalog.lookup query ≠ .error .brokenOff := by
  unfold Catalog.lookup
  split <;> simp

theorem lookup_eq_ok_iff {catalog : Catalog} {query : Text} {p : Preset} :
    catalog.lookup query = .ok p ↔ catalog.find? query = some p := by
  unfold Catalog.lookup
  split <;> simp_all

theorem resolver_ne_brokenOff {request : Request} {config : Config} :
    request.resolver config ≠ .error .brokenOff := by
  unfold resolver
  split <;> simp

/-- Only the times break a request off: its texts are always resolved. -/
theorem prepare_eq_brokenOff_iff_times (request : Request) (catalog : Catalog) (config : Config)
    (zone : Zone) (source : Generator) :
    request.prepare catalog config zone source = .error .brokenOff ↔
      (∃ p, catalog.find? request.preset = some p ∧ (request.title.getD p.title).trim ≠ []) ∧
        request.times config zone = .error .brokenOff := by
  unfold prepare
  simp only [bind_eq_error_iff, lookup_ne_brokenOff, lookup_eq_ok_iff, titleTemplate_ne_brokenOff,
    exists_titleTemplate_eq_ok_iff, resolver_ne_brokenOff, false_or]
  constructor
  · rintro ⟨p, hp, htitle, htimes | ⟨_, -, r, -, hend⟩⟩
    · exact ⟨⟨p, hp, htitle⟩, htimes⟩
    · obtain ⟨description, hvalue⟩ := (r.answerable_resolve p
        (request.description.getD p.description)).exists_value (request.generator source)
      rw [hvalue] at hend
      cases hend
  · rintro ⟨⟨p, hp, htitle⟩, htimes⟩
    exact ⟨p, hp, htitle, .inl htimes⟩

theorem not_losesFinish {request : Request} {config : Config} {zone : Zone} {start : Instant}
    (hzone : ∀ second, ¬ zone.Strays second)
    (hstart : start.second < DateTime.yearStart 10000 + 86400) :
    ¬ request.LosesFinish config zone start := by
  unfold LosesFinish
  cases request.finish with
  | some finish => exact fun ⟨t, _, hstrays⟩ => hzone _ hstrays
  | none =>
    rintro (hlast | hstrays)
    · have hminutes := config.minutes.toNat_lt
      have hslack : DateTime.yearStart 10000 + 86400 + 2 ^ 32 * 60 ≤ Instant.lastSecond := by decide
      omega
    · exact hzone _ hstrays

/-- A request breaks off exactly when its preset is found and its title is not blank, but its start or
its end is lost. With a start that does not begin with a plus sign that happens in no zone whose clock
stays within a day of universal time, however long the events of the configuration are. -/
theorem prepare_eq_brokenOff_iff (request : Request) (catalog : Catalog) (config : Config)
    (zone : Zone) (source : Generator) :
    (request.prepare catalog config zone source = .error .brokenOff ↔
      (∃ p, catalog.find? request.preset = some p ∧ (request.title.getD p.title).trim ≠ []) ∧
        (zone.Loses request.start ∨ ∃ start, zone.readTime request.start = .ok start ∧
          request.LosesFinish config zone start.instant)) ∧
    ((∀ second, ¬ zone.Strays second) → request.start.trim.head? ≠ some '+' →
      request.prepare catalog config zone source ≠ .error .brokenOff) := by
  have hiff := prepare_eq_brokenOff_iff_times request catalog config zone source
  rw [times_eq_brokenOff_iff] at hiff
  refine ⟨hiff, fun hzone hplus hbroken => ?_⟩
  obtain ⟨-, ⟨t, -, hstrays⟩ | ⟨start, hstart, hlost⟩⟩ := hiff.1 hbroken
  · exact hzone _ hstrays
  · exact not_losesFinish hzone (Zone.second_lt_of_readTime hstart hplus) hlost

theorem prepare_eq_brokenOff_iff_year_9999 :
    let request : Request := { preset := "gym".toList, start := "9999-12-31 23:59".toList }
    (∀ second, ¬ Zone.utc.Strays second) ∧ request.start.trim.head? ≠ some '+' ∧
      request.prepare Catalog.builtin { minutes := 4294967295 } Zone.utc (.script ⟨[]⟩) ≠
        .error .brokenOff := by
  intro request
  have hzone : ∀ second, ¬ Zone.utc.Strays second :=
    fun _ => show ¬ isOffset 0 = false by decide
  have hplus : request.start.trim.head? ≠ some '+' := by decide
  exact ⟨hzone, hplus, (prepare_eq_brokenOff_iff request _ _ _ _).2 hzone hplus⟩

/-- The last minute of the clock can be read, but an event that begins then cannot end, not even after
a minute. -/
theorem prepare_last_minute :
    ∃ config, Config.ofYaml "default_duration_minutes: 1\n".toList = .ok config ∧
      ({ preset := "gym".toList
         start := "+262142-12-31 23:59".toList
         seed := some 1 } : Request).prepare Catalog.builtin config Zone.utc (.script ⟨[]⟩) =
        .error .brokenOff :=
  ⟨{ minutes := 1 }, by decide +kernel, by decide +kernel⟩

end Request

end EventText
