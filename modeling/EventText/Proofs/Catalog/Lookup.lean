import EventText.Catalog
import EventText.Proofs.Text.Trim
import Mathlib.Data.List.Nodup

/-! Looking presets up. A query is trimmed, a label is not, so the label of a preset does not always
find it: `find?_label_iff` says when it does. A label without blanks at its ends always does. -/

namespace EventText

theorem lowerAt_ne_nil (before : Text) (c : Char) (after : Text) : lowerAt before c after ≠ [] := by
  unfold lowerAt
  split
  · split <;> simp
  · split <;> simp

theorem Text.lower_eq_nil_iff (text : Text) : text.lower = [] ↔ text = [] := by
  cases text with
  | nil => exact ⟨fun _ => rfl, fun _ => rfl⟩
  | cons c rest =>
    rw [Text.lower, lowerFrom, List.append_eq_nil_iff]
    exact ⟨fun h => absurd h.1 (lowerAt_ne_nil _ _ _), fun h => by cases h⟩

namespace Catalog

theorem plainName_blanks_append {front : Text} (h : ∀ c ∈ front, isBlank c = true) (text : Text) :
    plainName (front ++ text) = plainName text := by
  have hfront : ∀ c ∈ front, (!isAlphanumeric c) = true :=
    fun c hc => by rw [isAlphanumeric_of_isBlank (h c hc), Bool.not_false]
  rw [plainName, List.dropWhile_append_of_pos hfront, plainName]

theorem plainName_append_blanks {back : Text} (h : ∀ c ∈ back, isBlank c = true) (text : Text) :
    plainName (text ++ back) = plainName text := by
  have hback : ∀ c ∈ back, (!isAlphanumeric c) = true :=
    fun c hc => by rw [isAlphanumeric_of_isBlank (h c hc), Bool.not_false]
  unfold plainName
  rw [List.dropWhile_append]
  split
  · rename_i hempty
    rw [List.dropWhile_eq_nil_iff.2 hback, List.isEmpty_iff.1 hempty]
  · exact Text.trim_append_blanks h _

theorem plainName_trim (text : Text) : plainName text.trim = plainName text := by
  obtain ⟨front, back, hfront, hback, htext⟩ := Text.exists_blanks_trim text
  calc plainName text.trim
      = plainName (front ++ (text.trim ++ back)) := by
        rw [plainName_blanks_append hfront, plainName_append_blanks hback]
    _ = plainName text := by rw [← htext]

theorem check_cons_eq_ok_iff (taken : List Text) (p : Preset) (rest : List Preset) :
    check taken (p :: rest) = .ok () ↔
      p.violation? = none ∧ p.label ∉ taken ∧ check (p.label :: taken) rest = .ok () := by
  cases hviolation : p.violation? with
  | some violation =>
    have hcheck : check taken (p :: rest) = .error ⟨p.label, violation⟩ := by
      simp only [check, Preset.validate, hviolation]
      rfl
    simp [hcheck]
  | none =>
    by_cases htaken : p.label ∈ taken
    · have hcheck : check taken (p :: rest) = .error ⟨p.label, .labelTaken⟩ := by
        simp only [check, Preset.validate, hviolation, bind, Except.bind,
          List.contains_iff_mem.2 htaken]
        rfl
      simp [hcheck, htaken]
    · have hfree : taken.contains p.label = false := by simpa using htaken
      have hcheck : check taken (p :: rest) = check (p.label :: taken) rest := by
        simp only [check, Preset.validate, hviolation, bind, Except.bind, hfree]
        rfl
      simp [hcheck, htaken]

theorem check_eq_ok_iff (taken : List Text) (presets : List Preset) :
    check taken presets = .ok () ↔
      (∀ p ∈ presets, p.violation? = none) ∧ (∀ p ∈ presets, p.label ∉ taken) ∧
        (presets.map (·.label)).Nodup := by
  induction presets generalizing taken with
  | nil => simp [check]
  | cons p rest ih =>
    rw [check_cons_eq_ok_iff, ih, List.map_cons, List.nodup_cons, List.forall_mem_cons,
      List.forall_mem_cons]
    constructor
    · rintro ⟨hp, htaken, hrest, hlabels, hnodup⟩
      refine ⟨⟨hp, hrest⟩, ⟨htaken, fun q hq hmem => ?_⟩, fun hmem => ?_, hnodup⟩
      · exact hlabels q hq (List.mem_cons_of_mem _ hmem)
      · obtain ⟨q, hq, hlabel⟩ := List.mem_map.1 hmem
        exact hlabels q hq (by rw [hlabel]; exact List.mem_cons_self ..)
    · rintro ⟨⟨hp, hrest⟩, ⟨htaken, hlabels⟩, hnew, hnodup⟩
      refine ⟨hp, htaken, hrest, fun q hq hmem => ?_, hnodup⟩
      rcases List.mem_cons.1 hmem with hlabel | hmem
      · exact hnew (List.mem_map.2 ⟨q, hq, hlabel⟩)
      · exact hlabels q hq hmem

theorem ofList_eq_ok_iff {presets : List Preset} {catalog : Catalog} :
    ofList presets = .ok catalog ↔ catalog.presets = presets ∧
      (∀ p ∈ presets, p.violation? = none) ∧ (presets.map (·.label)).Nodup := by
  have hcheck := check_eq_ok_iff [] presets
  simp only [List.not_mem_nil, not_false_eq_true, implies_true, true_and] at hcheck
  rw [← hcheck]
  obtain ⟨found⟩ := catalog
  cases h : check [] presets with
  | error e => simp [ofList, h, bind, Except.bind]
  | ok value => simp [ofList, h, bind, Except.bind, pure, Except.pure, eq_comm]

/-- An entry that stands nowhere else is found exactly when nothing before it is. -/
theorem find?_append_cons {f : Preset → Bool} {before after : List Preset} {p : Preset}
    (hp : p ∉ before) (hf : f p = true) :
    (before ++ p :: after).find? f = some p ↔ ∀ q ∈ before, f q = false := by
  rw [List.find?_append]
  cases hbefore : before.find? f with
  | none =>
    simp only [List.find?_eq_none, Bool.not_eq_true] at hbefore
    simpa [hf] using hbefore
  | some found =>
    have hfound := List.find?_some hbefore
    have hmem := List.mem_of_find?_eq_some hbefore
    constructor
    · intro heq
      obtain rfl := Option.some.inj heq
      exact absurd hmem hp
    · intro hnone
      rw [hnone found hmem] at hfound
      cases hfound

section Find

variable {catalog : Catalog} {before after : List Preset} {p : Preset}

theorem label_not_mem_before (hnodup : catalog.labels.Nodup)
    (hp : catalog.presets = before ++ p :: after) : ∀ q ∈ before, q.label ≠ p.label := by
  intro q hq hlabel
  rw [labels, hp, List.map_append, List.map_cons, List.nodup_append] at hnodup
  exact hnodup.2.2 _ (List.mem_map_of_mem hq) _ (List.mem_cons_self ..) hlabel

theorem find?_of_trim_eq (hnodup : catalog.labels.Nodup)
    (hp : catalog.presets = before ++ p :: after) (htrim : p.label.trim = p.label) :
    catalog.find? p.label = some p := by
  have hbefore := label_not_mem_before hnodup hp
  have hexact : catalog.presets.find? (·.label == p.label.trim) = some p := by
    rw [hp, find?_append_cons (fun h => hbefore p h rfl) (by rw [htrim, beq_self_eq_true])]
    intro q hq
    rw [htrim]
    exact beq_false_of_ne (hbefore q hq)
  rw [find?, hexact]

theorem find?_of_trim_mem (htrim : p.label.trim ≠ p.label) (hmem : p.label.trim ∈ catalog.labels) :
    catalog.find? p.label ≠ some p := by
  cases hexact : catalog.presets.find? (·.label == p.label.trim) with
  | none =>
    obtain ⟨q, hq, hlabel⟩ := List.mem_map.1 hmem
    have := List.find?_eq_none.1 hexact q hq
    simp [hlabel] at this
  | some q =>
    have hlabel : q.label = p.label.trim := by simpa using List.find?_some hexact
    rw [find?, hexact]
    rintro heq
    obtain rfl := Option.some.inj heq
    exact htrim hlabel.symm

theorem find?_of_trim_not_mem (hnodup : catalog.labels.Nodup)
    (hp : catalog.presets = before ++ p :: after) (hmem : p.label.trim ∉ catalog.labels) :
    catalog.find? p.label = some p ↔ plainName p.label ≠ [] ∧
      ∀ q ∈ before, (plainName q.label).lower ≠ (plainName p.label).lower := by
  have hbefore := label_not_mem_before hnodup hp
  have hexact : catalog.presets.find? (·.label == p.label.trim) = none := by
    rw [List.find?_eq_none]
    intro q hq hlabel
    exact hmem (List.mem_map.2 ⟨q, hq, by simpa using hlabel⟩)
  simp only [find?, hexact, plainName_trim, List.isEmpty_iff, Text.lower_eq_nil_iff]
  by_cases hempty : plainName p.label = []
  · simp [hempty]
  · rw [if_neg hempty, hp,
      find?_append_cons (fun h => hbefore p h rfl) (beq_self_eq_true (plainName p.label).lower)]
    simp [hempty]

end Find

/-- A preset of a catalog is found by its own label when the label has no blanks at its ends. Else
it is found exactly when no preset has the trimmed label, the label has a plain name, and no preset
before it has the same plain name in any case. -/
theorem find?_label_iff {presets before after : List Preset} {catalog : Catalog} {p : Preset}
    (h : ofList presets = .ok catalog) (hp : catalog.presets = before ++ p :: after) :
    catalog.find? p.label = some p ↔ p.label.trim = p.label ∨
      (p.label.trim ∉ catalog.labels ∧ plainName p.label ≠ [] ∧
        ∀ q ∈ before, (plainName q.label).lower ≠ (plainName p.label).lower) := by
  obtain ⟨rfl, -, hnodup⟩ := ofList_eq_ok_iff.1 h
  by_cases htrim : p.label.trim = p.label
  · exact iff_of_true (find?_of_trim_eq hnodup hp htrim) (.inl htrim)
  · by_cases hmem : p.label.trim ∈ catalog.labels
    · refine iff_of_false (find?_of_trim_mem htrim hmem) ?_
      rintro (heq | ⟨hnot, -⟩)
      · exact htrim heq
      · exact hnot hmem
    · rw [find?_of_trim_not_mem hnodup hp hmem]
      simp [htrim, hmem]

def labelled (label : String) : Preset := { label := label.toList }

theorem find?_label_iff_dinner :
    ofList [labelled "🏋️ Gym", labelled " Dinner "] =
      .ok ⟨[labelled "🏋️ Gym", labelled " Dinner "]⟩ ∧
    find? ⟨[labelled "🏋️ Gym", labelled " Dinner "]⟩ " Dinner ".toList =
      some (labelled " Dinner ") := by
  have hcatalog : ofList [labelled "🏋️ Gym", labelled " Dinner "] =
      .ok ⟨[labelled "🏋️ Gym", labelled " Dinner "]⟩ :=
    ofList_eq_ok_iff.2 ⟨rfl, by decide +kernel, by decide⟩
  have hsplit : (⟨[labelled "🏋️ Gym", labelled " Dinner "]⟩ : Catalog).presets =
      [labelled "🏋️ Gym"] ++ labelled " Dinner " :: [] := rfl
  refine ⟨hcatalog, (find?_label_iff hcatalog hsplit).2 (.inr ⟨?_, ?_, ?_⟩)⟩
  · decide
  · decide +kernel
  · decide +kernel

/-- Labels with a blank at an end: one finds another preset, one finds none. -/
theorem find?_label_with_blank :
    ∃ catalog : Catalog,
      ofList [labelled "Gym", labelled " Gym", labelled "🎲 "] = .ok catalog ∧
      (∃ p ∈ catalog.presets, catalog.find? p.label ≠ some p) ∧
      (catalog.find? " Gym".toList).map (·.label) = some "Gym".toList ∧
      (catalog.find? "🎲 ".toList).map (·.label) = none := by
  let catalog : Catalog := ⟨[labelled "Gym", labelled " Gym", labelled "🎲 "]⟩
  have hgym : (catalog.find? " Gym".toList).map (·.label) = some "Gym".toList := by decide +kernel
  have hdice : (catalog.find? "🎲 ".toList).map (·.label) = none := by decide +kernel
  have hother : catalog.find? (labelled " Gym").label ≠ some (labelled " Gym") := by
    intro hfound
    have hlabel := congrArg (Option.map (·.label)) hfound
    rw [labelled, hgym] at hlabel
    exact absurd hlabel (by decide)
  have hcatalog : ofList [labelled "Gym", labelled " Gym", labelled "🎲 "] = .ok catalog :=
    ofList_eq_ok_iff.2 ⟨rfl, by decide +kernel, by decide⟩
  exact ⟨catalog, hcatalog, ⟨labelled " Gym", by simp [catalog], hother⟩, hgym, hdice⟩

end Catalog

end EventText
