import EventText.Proofs.Request.Ending
import EventText.Proofs.Resolver.TitleValues

/-! What a request hands over. The guard on titles looks at the template, but neither the values of
fields nor the name of a meal can take the last visible character of a title away, so the title that
is handed over is visible too; and the event does not end before it starts, and is an edit exactly
when it has an id (`wellFormed_of_prepare`). -/

namespace EventText

open Text

section Title

variable {word replacement text : Text} {before : Option Char}

theorem isVisible_replaceWordAfter (hreplacement : replacement.IsVisible) (h : text.IsVisible) :
    (replaceWordAfter word replacement before text).IsVisible := by
  induction text generalizing before with
  | nil =>
    obtain ⟨c, hc, -⟩ := h
    cases hc
  | cons c rest ih =>
    unfold replaceWordAfter
    split
    · exact hreplacement.mono (List.subset_append_left _ _)
    · obtain ⟨d, hd, hblank⟩ := h
      rcases List.mem_cons.1 hd with rfl | hd
      · exact ⟨d, List.mem_cons_self, hblank⟩
      · exact (ih ⟨d, hd, hblank⟩).mono (List.subset_cons_self _ _)

theorem isVisible_mealName (meal : Meal) : meal.name.IsVisible := by
  cases meal
  · exact ⟨'B', by decide, by decide⟩
  · exact ⟨'L', by decide, by decide⟩
  · exact ⟨'S', by decide, by decide⟩
  · exact ⟨'D', by decide, by decide⟩

theorem isVisible_mealTitle (h : text.IsVisible) (time : TimeOfDay) :
    (mealTitle text time).IsVisible :=
  isVisible_replaceWordAfter (isVisible_mealName _) h

theorem Placeholder.isVisible_written (p : Placeholder) : p.written.IsVisible := by
  obtain ⟨inner, hinner⟩ := p.exists_written_eq_cons
  exact ⟨'[', by rw [hinner]; exact List.mem_cons_self .., by decide⟩

/-- A placeholder is visible itself, so visible answers leave a visible text visible. -/
theorem Template.isVisible_rewrite {f : Placeholder → Option Text}
    (hf : ∀ p answer, f p = some answer → answer.IsVisible) {ps : List Piece}
    (h : (Template.written ps).IsVisible) : (Template.rewrite f ps).IsVisible := by
  induction ps with
  | nil =>
    obtain ⟨c, hc, -⟩ := h
    cases hc
  | cons piece rest ih =>
    cases piece with
    | letter c =>
      rw [rewrite_letter]
      obtain ⟨d, hd, hblank⟩ := h
      rcases List.mem_cons.1 hd with rfl | hd
      · exact ⟨d, List.mem_cons_self, hblank⟩
      · exact (ih ⟨d, hd, hblank⟩).mono (List.subset_cons_self _ _)
    | token p =>
      rw [rewrite_token]
      refine Text.IsVisible.mono ?_ (List.subset_append_left _ _)
      cases hanswer : f p with
      | none => exact p.isVisible_written
      | some answer => exact hf p answer hanswer

namespace Resolver

theorem isVisible_fieldValue {sources : List Placeholder} {key value : Text}
    (h : fieldValue? sources key = some value) : value.IsVisible := by
  have hne : value ≠ [] := by simpa using List.find?_some h
  obtain ⟨payload, -, rfl⟩ := List.mem_map.1 (List.mem_of_find?_eq_some h)
  exact isVisible_trim hne

theorem isVisible_substituteTitle (r : Resolver) (preset : Preset) {title : Text}
    (h : title.IsVisible) (description : Text) :
    (r.substituteTitle preset title description).IsVisible := by
  rw [substituteTitle_eq]
  apply Template.isVisible_rewrite
  · intro p answer hanswer
    unfold answerTitle at hanswer
    split at hanswer
    · exact isVisible_fieldValue hanswer
    · cases hanswer
  · rwa [r.grammar.written_pieces]

theorem isVisible_resolveTitle (r : Resolver) {preset : Preset} {title : Text}
    (hrule : preset.titleRule = none ∨ preset.titleRule = some mealTitle) (h : title.IsVisible)
    (description : Text) (start : TimeOfDay) :
    (r.resolveTitle preset title description start).IsVisible := by
  have hfields := isVisible_substituteTitle r preset h description
  unfold resolveTitle
  rcases hrule with hrule | hrule
  · rw [hrule]
    exact hfields
  · rw [hrule]
    exact isVisible_mealTitle hfields start

end Resolver

end Title

namespace Instant

theorem isBefore_eq_false_iff {a b : Instant} :
    a.isBefore b = false ↔
      b.second < a.second ∨ b.second = a.second ∧ b.nanosecond ≤ a.nanosecond := by
  simp only [isBefore, Bool.or_eq_false_iff, Bool.and_eq_false_iff, decide_eq_false_iff_not,
    beq_eq_false_iff_ne]
  omega

end Instant

namespace Event

/-- What the event store relies on. -/
structure WellFormed (e : Event) : Prop where
  title_visible : e.title.IsVisible
  start_le_finish : e.start.second < e.finish.second ∨
    e.start.second = e.finish.second ∧ e.start.nanosecond ≤ e.finish.nanosecond
  edit_iff : e.action = .edit ↔ ∃ id, e.id = some id ∧ id ≠ []
  create_iff : e.action = .create ↔ e.id = none

theorem wellFormed_ofTexts {id : Option Text} {title description : Text} {start finish : Instant}
    (htitle : title.IsVisible) (htimes : finish.isBefore start = false) :
    (ofTexts id title description start finish).WellFormed where
  title_visible := htitle
  start_le_finish := Instant.isBefore_eq_false_iff.1 htimes
  edit_iff := by
    rcases id with _ | _ | ⟨c, id⟩ <;> simp [ofTexts]
  create_iff := by
    rcases id with _ | _ | ⟨c, id⟩ <;> simp [ofTexts]

end Event

theorem Catalog.mem_of_find? {catalog : Catalog} {query : Text} {p : Preset}
    (h : catalog.find? query = some p) : p ∈ catalog.presets := by
  unfold find? at h
  split at h
  · rename_i hlabel
    obtain rfl := Option.some.inj h
    exact List.mem_of_find?_eq_some hlabel
  · dsimp only at h
    split at h
    · cases h
    · exact List.mem_of_find?_eq_some h

namespace Request

theorem isBefore_of_times {request : Request} {config : Config} {zone : Zone}
    {start finish : OffsetInstant} (h : request.times config zone = .ok (start, finish)) :
    finish.instant.isBefore start.instant = false := by
  simp only [times, bind_eq_ok_iff] at h
  obtain ⟨first, -, last, -, h⟩ := h
  split at h
  · cases h
  · rename_i hbefore
    obtain ⟨rfl, rfl⟩ := Prod.mk.inj (Except.ok.inj h)
    simpa using hbefore

/-- What a request that succeeds is made of. -/
theorem prepare_eq_ok {request : Request} {catalog : Catalog} {config : Config} {zone : Zone}
    {source : Generator} {prepared : Prepared}
    (h : request.prepare catalog config zone source = .ok prepared) :
    ∃ p, catalog.find? request.preset = some p ∧ (request.title.getD p.title).IsVisible ∧
      ∃ start finish, request.times config zone = .ok (start, finish) ∧
        ∃ r, request.resolver config = .ok r ∧ ∃ description : Text,
          prepared.event = Event.ofTexts request.id
            (r.resolveTitle p (request.title.getD p.title)
              (request.description.getD p.description) start.reading.time)
            description start.instant finish.instant := by
  simp only [prepare, bind_eq_ok_iff, lookup_eq_ok_iff] at h
  obtain ⟨p, hp, title, htitle, ⟨start, finish⟩, htimes, r, hr, h⟩ := h
  obtain ⟨hvisible, rfl⟩ : (request.title.getD p.title).trim ≠ [] ∧
      title = request.title.getD p.title :=
    exists_titleTemplate_eq_ok_iff.1 ⟨title, htitle, rfl⟩
  refine ⟨p, hp, trim_ne_nil_iff.1 hvisible, start, finish, htimes, r, hr, ?_⟩
  split at h
  · cases h
  · rename_i description _
    obtain rfl := Except.ok.inj h
    exact ⟨description, rfl⟩

/-- Every request that succeeds hands over a well-formed event, with the requested id unless that is
empty. -/
theorem wellFormed_of_prepare {request : Request} {catalog : Catalog} {config : Config}
    {zone : Zone} {source : Generator} {prepared : Prepared}
    (hrules : ∀ p ∈ catalog.presets, p.titleRule = none ∨ p.titleRule = some mealTitle)
    (h : request.prepare catalog config zone source = .ok prepared) :
    prepared.event.WellFormed ∧ prepared.event.id = request.id.filter (!·.isEmpty) := by
  obtain ⟨p, hp, hvisible, start, finish, htimes, r, -, description, hevent⟩ := prepare_eq_ok h
  rw [hevent]
  refine ⟨Event.wellFormed_ofTexts ?_ (isBefore_of_times htimes), rfl⟩
  exact r.isVisible_resolveTitle (hrules p (Catalog.mem_of_find? hp)) hvisible _ _

/-- All that is visible of this title is a key, and what takes its place comes from between blanks. -/
theorem wellFormed_of_prepare_only_key :
    let request : Request := {
      preset := "birthday".toList
      start := "2016-12-31T23:59:60Z".toList
      title := some " [person]\t".toList
      description := some "[PERSON: ][Person:\u3000Alex ]".toList
      id := some [] }
    ∃ prepared, request.prepare Catalog.builtin default Zone.utc (.script ⟨[]⟩) = .ok prepared ∧
      prepared.event.title = " Alex\t".toList ∧ prepared.event.WellFormed ∧
      prepared.event.id = none := by
  intro request
  have hrules : ∀ p ∈ Catalog.builtin.presets,
      p.titleRule = none ∨ p.titleRule = some mealTitle := by
    simp [Catalog.builtin]
  obtain ⟨prepared, hprepared, htitle⟩ : ∃ prepared,
      request.prepare Catalog.builtin default Zone.utc (.script ⟨[]⟩) = .ok prepared ∧
        prepared.event.title = " Alex\t".toList :=
    ⟨{ event := ⟨.create, none, " Alex\t".toList, "[PERSON: ]<b>Alex</b>".toList,
        .mk 1483228799 1000000000, .mk 1483232399 0⟩
       warnings := ["unresolved placeholders in description: [PERSON: ]".toList] },
      by decide +kernel, rfl⟩
  exact ⟨prepared, hprepared, htitle, wellFormed_of_prepare hrules hprepared⟩

end Request

end EventText
