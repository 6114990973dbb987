import EventText.Proofs.Catalog.Lookup
import EventText.Proofs.Text.AsciiCase

/-! Queries that are no labels. Such a query counts by its plain name in any case, and it finds the
first preset with that name (`find?_plainName`). Labels come before plain names, in the whole catalog
(`find?_eq_or`), so presets put behind a catalog do not change what is found there, unless the query
is the label of one of them. -/

namespace EventText.Catalog

/-- The first preset with a plain name, in any case; no preset is found by the empty name. -/
def firstNamed? (presets : List Preset) (name : Text) : Option Preset :=
  if name = [] then none else presets.find? fun p => (plainName p.label).lower == name.lower

theorem find?_eq_or (catalog : Catalog) (query : Text) :
    catalog.find? query =
      (catalog.presets.find? (·.label == query.trim)).or
        (firstNamed? catalog.presets (plainName query)) := by
  unfold find? firstNamed?
  rw [plainName_trim]
  split
  · rename_i hlabel
    rw [hlabel, Option.some_or]
  · rename_i hlabel
    rw [hlabel, Option.none_or]
    simp only [List.isEmpty_iff, Text.lower_eq_nil_iff]

theorem firstNamed?_congr (presets : List Preset) {a b : Text} (h : a.sameAscii b = true) :
    firstNamed? presets a = firstNamed? presets b := by
  have hupper : a.asciiUpper = b.asciiUpper := by simpa [Text.sameAscii] using h
  have hlower := Text.lower_congr hupper
  have hnil : a = [] ↔ b = [] := by
    rw [← Text.lower_eq_nil_iff a, hlower, Text.lower_eq_nil_iff b]
  simp only [firstNamed?, hnil, hlower]

theorem firstNamed?_eq_some_iff {presets : List Preset} {name : Text} {p : Preset} :
    firstNamed? presets name = some p ↔ name ≠ [] ∧ ∃ before after,
      presets = before ++ p :: after ∧ (plainName p.label).lower = name.lower ∧
        ∀ q ∈ before, (plainName q.label).lower ≠ name.lower := by
  unfold firstNamed?
  split
  · rename_i hname
    simp [hname]
  · rename_i hname
    rw [List.find?_eq_some_iff_append]
    simp [hname, and_left_comm]

theorem find?_of_label_not_mem {catalog : Catalog} {query : Text}
    (h : query.trim ∉ catalog.labels) :
    catalog.find? query = firstNamed? catalog.presets (plainName query) := by
  have hlabel : catalog.presets.find? (·.label == query.trim) = none := by
    rw [List.find?_eq_none]
    intro p hp heq
    exact h (List.mem_map.2 ⟨p, hp, by simpa using heq⟩)
  rw [find?_eq_or, hlabel, Option.none_or]

theorem firstNamed?_append (presets more : List Preset) (name : Text) :
    firstNamed? (presets ++ more) name =
      (firstNamed? presets name).or (firstNamed? more name) := by
  unfold firstNamed?
  split
  · rfl
  · exact List.find?_append

/-- What was found is still found when presets without the label are put behind. -/
theorem find?_append_of_label {catalog : Catalog} {more : List Preset} {query : Text}
    (h : ∀ q ∈ more, q.label ≠ query.trim) :
    find? ⟨catalog.presets ++ more⟩ query =
      (catalog.find? query).or (firstNamed? more (plainName query)) := by
  have hmore : more.find? (·.label == query.trim) = none := by
    rw [List.find?_eq_none]
    intro q hq heq
    exact h q hq (by simpa using heq)
  rw [find?_eq_or, find?_eq_or, List.find?_append, hmore, Option.or_none, firstNamed?_append,
    Option.or_assoc]

/-- Two queries that are no labels find the same preset when their plain names are the same up to the
case of ASCII letters: none when the name is empty, and else the first one whose plain name has the
same lower case. And what a catalog finds stays what is found when presets are put behind it, unless
the trimmed query is the label of one of them. -/
theorem find?_plainName (catalog : Catalog) :
    (∀ a b : Text, a.trim ∉ catalog.labels → b.trim ∉ catalog.labels →
      (plainName a).sameAscii (plainName b) = true →
      catalog.find? a = catalog.find? b ∧ (plainName a = [] → catalog.find? a = none) ∧
        ∀ p, catalog.find? a = some p ↔ plainName a ≠ [] ∧ ∃ before after,
          catalog.presets = before ++ p :: after ∧
            (plainName p.label).lower = (plainName a).lower ∧
            ∀ q ∈ before, (plainName q.label).lower ≠ (plainName a).lower) ∧
    ∀ (more : List Preset) (query : Text) (p : Preset), catalog.find? query = some p →
      (∀ q ∈ more, q.label ≠ query.trim) →
      find? ⟨catalog.presets ++ more⟩ query = some p := by
  refine ⟨?_, ?_⟩
  · intro a b ha hb hname
    have hfind := find?_of_label_not_mem ha
    refine ⟨?_, ?_, ?_⟩
    · rw [hfind, find?_of_label_not_mem hb, firstNamed?_congr _ hname]
    · intro hempty
      rw [hfind, firstNamed?, if_pos hempty]
    · intro p
      rw [hfind, firstNamed?_eq_some_iff]
  · intro more query p hp hmore
    rw [find?_append_of_label hmore, hp, Option.some_or]

/-- A sigma at the end of a word has its own small form, in the label as in the queries. Of two presets
with the name the first is found, also when a third one with the name is put behind them. -/
theorem find?_plainName_sigma :
    let catalog : Catalog := ⟨[labelled "☕ Coffee", labelled "🏛 Οδος 6th", labelled "ΟΔΟΣ 6TH"]⟩
    let more : List Preset := [labelled "ΟΔΟΣ 6th"]
    let a : Text := " ΟΔΟΣ 6tH ".toList
    let b : Text := "!? ΟΔΟΣ 6Th".toList
    a.trim ∉ catalog.labels ∧ b.trim ∉ catalog.labels ∧
      (plainName a).sameAscii (plainName b) = true ∧ (∀ q ∈ more, q.label ≠ b.trim) ∧
      catalog.find? a = some (labelled "🏛 Οδος 6th") ∧ catalog.find? b = catalog.find? a ∧
      find? ⟨catalog.presets ++ more⟩ b = some (labelled "🏛 Οδος 6th") := by
  intro catalog more a b
  have ha : a.trim ∉ catalog.labels := by decide
  have hb : b.trim ∉ catalog.labels := by decide
  have hname : (plainName a).sameAscii (plainName b) = true := by decide +kernel
  have hmore : ∀ q ∈ more, q.label ≠ b.trim :=
    List.forall_mem_singleton.2 (by decide)
  obtain ⟨hsame, -, hfound⟩ := (find?_plainName catalog).1 a b ha hb hname
  have hroad : catalog.find? a = some (labelled "🏛 Οδος 6th") := by
    refine (hfound _).2 ⟨by decide +kernel, [labelled "☕ Coffee"], [labelled "ΟΔΟΣ 6TH"], rfl, ?_, ?_⟩
    · decide +kernel
    · decide +kernel
  refine ⟨ha, hb, hname, hmore, hroad, hsame.symm, ?_⟩
  exact (find?_plainName catalog).2 more b _ (hsame ▸ hroad) hmore

end EventText.Catalog
