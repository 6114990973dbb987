import EventText.Proofs.Resolver.Leftovers
import EventText.Proofs.Template.Weaving
import EventText.Resolver.Title

/-! The value of a field in the title and in the description. The title reads it off the description
as it was written, the field pass off the text that the other passes have made of it; both come upon
the same value first (`substituteTitle_eq_weave`). -/

namespace EventText

open Template

section Keys

variable {preset : Preset} {a b : Text}

theorem Preset.role?_congr (h : a.asciiUpper = b.asciiUpper) : preset.role? a = preset.role? b := by
  simp only [Preset.role?, Text.sameAscii, h]

theorem Resolver.fieldValue?_congr (h : a.asciiUpper = b.asciiUpper) (sources : List Placeholder) :
    Resolver.fieldValue? sources a = Resolver.fieldValue? sources b := by
  simp only [Resolver.fieldValue?, Placeholder.hasKey, Text.sameAscii, h]

theorem Placeholder.hasKey_iff {p : Placeholder} {key : Text} :
    p.hasKey key = true ↔ p.key.asciiUpper = key.asciiUpper := by
  simp [Placeholder.hasKey, Text.sameAscii]

theorem Preset.exists_fieldKey {key : Text} (h : preset.role? key = some .field) :
    ∃ k ∈ preset.fieldKeys, key.asciiUpper = k.asciiUpper := by
  obtain ⟨⟨k, role⟩, hfind, hrole⟩ := Option.map_eq_some_iff.1 h
  obtain rfl : role = .field := hrole
  have hmem := List.mem_of_find?_eq_some hfind
  have hsame : k.asciiUpper = key.asciiUpper := by
    simpa [Text.sameAscii] using List.find?_some hfind
  refine ⟨k, ?_, hsame.symm⟩
  simpa [Preset.keys] using hmem

end Keys

namespace Resolver

/-- What the field pass puts in for the placeholders of a key, in order. -/
def fieldTexts (preset : Preset) (key : Text) (ps : List Piece) : List Text :=
  ((placeholders ps).filter (·.hasKey key)).filterMap (answerField preset)

section Values

variable {preset : Preset} {key : Text}

/-- The first text that the field pass puts in for a key is the value that the title finds. -/
theorem head?_answers_eq (hrole : preset.role? key = some .field) (sources : List Placeholder) :
    ((sources.filter (·.hasKey key)).filterMap (answerField preset)).head? =
      (fieldValue? sources key).map bold := by
  induction sources with
  | nil => rfl
  | cons p rest ih =>
    unfold fieldValue? at ih ⊢
    by_cases hkey : p.hasKey key
    · have hfield : preset.role? p.key = some .field :=
        (Preset.role?_congr (Placeholder.hasKey_iff.1 hkey)).trans hrole
      cases hp : p.payload with
      | none =>
        have hnone : answerField preset p = none := by simp [answerField, hp]
        simpa [hkey, hp, hnone] using ih
      | some payload =>
        by_cases hvalue : payload.trim = []
        · have hnone : answerField preset p = none := by simp [answerField, hp, hvalue]
          simpa [hkey, hp, hnone, hvalue] using ih
        · have hsome : answerField preset p = some (bold payload.trim) := by
            simp [answerField, hp, hvalue, hfield]
          simp [hkey, hp, hsome, hvalue]
    · simpa [hkey] using ih

theorem answers_eq_nil (hrole : preset.role? key ≠ some .field) (sources : List Placeholder) :
    (sources.filter (·.hasKey key)).filterMap (answerField preset) = [] := by
  rw [List.filterMap_eq_nil_iff]
  intro p hp
  have hkey := Placeholder.hasKey_iff.1 (List.mem_filter.1 hp).2
  have hnot : preset.role? p.key ≠ some .field := by rwa [Preset.role?_congr hkey]
  cases hpayload : p.payload <;> simp [answerField, hpayload, hnot]

/-- A placeholder that the field pass answers was left by the other passes. -/
theorem isField_of_answerField {p : Placeholder} {text : Text}
    (h : answerField preset p = some text) :
    (!p.isLinked && (preset.rule? p).all Rule.isField) = true := by
  have hlinked : p.isLinked = false := by
    cases hpayload : p.payload with
    | none => simp [answerField, hpayload] at h
    | some payload => simp [Placeholder.isLinked, Placeholder.isBare, hpayload]
  rw [answerField_eq] at h
  split at h
  · rename_i value hrule
    rw [hlinked, hrule]
    rfl
  · cases h

theorem fieldTexts_beforeFields {r : Resolver} {description text : Text}
    (h : r.Bracketless preset (r.grammar.pieces description))
    (htext : (r.beforeFields preset description).Yields text) :
    fieldTexts preset key (r.grammar.pieces text) =
      fieldTexts preset key (r.grammar.pieces description) := by
  unfold fieldTexts
  rw [placeholders_beforeFields h htext, List.filter_filter, List.filterMap_filter,
    List.filterMap_filter]
  congr 1
  funext p
  cases hanswer : answerField preset p with
  | none => simp
  | some answer => simp only [isField_of_answerField hanswer, Bool.and_true]

end Values

/-- The value that the title gives to a key: none unless it is the key of a field. -/
def titleValue (preset : Preset) (sources : List Placeholder) (key : Text) : Option Text :=
  if preset.role? key = some .field then fieldValue? sources key else none

theorem answerTitle_eq (preset : Preset) (sources : List Placeholder) (p : Placeholder) :
    answerTitle preset sources p =
      if p.isBare then (preset.fieldKeys.find? p.hasKey).bind (titleValue preset sources)
      else none := by
  cases hfind : preset.fieldKeys.find? p.hasKey with
  | none =>
    have hrole : preset.role? p.key ≠ some .field := by
      intro hrole
      obtain ⟨k, hk, hsame⟩ := Preset.exists_fieldKey hrole
      exact List.find?_eq_none.1 hfind k hk (Placeholder.hasKey_iff.2 hsame)
    simp [answerTitle, hrole]
  | some k =>
    have hsame := Placeholder.hasKey_iff.1 (List.find?_some hfind)
    by_cases hbare : p.isBare = true <;>
      simp [answerTitle, titleValue, hbare, Preset.role?_congr hsame, fieldValue?_congr hsame]

theorem substituteTitle_eq (r : Resolver) (preset : Preset) (title description : Text) :
    r.substituteTitle preset title description =
      rewrite (answerTitle preset (placeholders (r.grammar.pieces description)))
        (r.grammar.pieces title) := by
  unfold substituteTitle
  split
  · rename_i hempty
    have hnone : ∀ p ∈ placeholders (r.grammar.pieces title),
        answerTitle preset (placeholders (r.grammar.pieces description)) p = none := by
      intro p _
      rw [answerTitle_eq, List.isEmpty_iff.1 hempty]
      simp
    rw [rewrite_congr hnone, rewrite_none, r.grammar.written_pieces]
  · rfl

/-- The field pass leaves the text between the placeholders and puts each value in bold. Each bare key
of a field, in any case, stands in the title for the value that the field pass puts in for the first
placeholder of the key that it replaces; where it replaces none, and in all other places, the title
stays as it is. -/
theorem substituteTitle_eq_weave (r : Resolver) (preset : Preset) (description : Text)
    (h : r.Bracketless preset (r.grammar.pieces description)) (σ : Type) [Source σ] (source : σ) :
    ∃ text, ((r.beforeFields preset description).run source).value = some text ∧
      ((r.substitute preset description).run source).value = some (r.fieldPass preset text) ∧
      r.fieldPass preset text = weave (gaps (r.grammar.pieces text))
        ((placeholders (r.grammar.pieces text)).map fun p => (answerField preset p).getD p.written) ∧
      ∃ value : Text → Option Text,
        (∀ key ∈ preset.fieldKeys,
          (fieldTexts preset key (r.grammar.pieces text)).head? = (value key).map bold) ∧
        ∀ title, r.substituteTitle preset title description =
          weave (gaps (r.grammar.pieces title)) ((placeholders (r.grammar.pieces title)).map fun p =>
            (if p.isBare then (preset.fieldKeys.find? p.hasKey).bind value else none).getD
              p.written) := by
  obtain ⟨after, hafter⟩ := (answerable_substitute r preset description).exists_value source
  have hvalue := hafter
  rw [substitute_eq_map, Draw.value_run_map] at hvalue
  obtain ⟨text, htext, rfl⟩ := Option.map_eq_some_iff.1 hvalue
  refine ⟨text, htext, hafter, rewrite_eq_weave _ _,
    titleValue preset (placeholders (r.grammar.pieces description)), ?_, ?_⟩
  · intro key _
    rw [fieldTexts_beforeFields h (Draw.yields_of_run htext)]
    by_cases hrole : preset.role? key = some .field
    · rw [titleValue, if_pos hrole]
      exact head?_answers_eq hrole _
    · rw [titleValue, if_neg hrole, fieldTexts, answers_eq_nil hrole]
      rfl
  · intro title
    rw [substituteTitle_eq, rewrite_congr fun p _ => answerTitle_eq preset _ p, rewrite_eq_weave]

theorem substituteTitle_eq_weave_odd_names :
    let description := "[[a][NAME: ][Who][name: [Z ][NAME: Y]".toList
    oddNames.Bracketless dinnerOut (oddNames.grammar.pieces description) ∧
    ((oddNames.substitute dinnerOut description).run (Script.mk [1])).value =
      some "[<b>C
D]</b>[NAME: ]<b>Bo]:</b>] pays<b>[Z</b><b>Y</b>".toList ∧
    oddNames.substituteTitle dinnerOut "[Name], [NAME: Q], [who]".toList description =
      "[Z, [NAME: Q], [who]".toList := by
  intro description
  have hbracketless : oddNames.Bracketless dinnerOut (oddNames.grammar.pieces description) :=
    ⟨by decide, by decide, by decide +kernel⟩
  obtain ⟨text, htext, hsubstitute, hpass, value, hvalue, htitle⟩ :=
    substituteTitle_eq_weave oddNames dinnerOut description hbracketless Script (Script.mk [1])
  have hrun : ((oddNames.beforeFields dinnerOut description).run (Script.mk [1])).value =
      some "[<b>C
D]</b>[NAME: ]<b>Bo]:</b>] pays[name: [Z ][NAME: Y]".toList := by
    decide +kernel
  obtain rfl := Option.some.inj (hrun.symm.trans htext)
  have hfirst := hvalue "NAME".toList (by decide)
  have hhead : (fieldTexts dinnerOut "NAME".toList (oddNames.grammar.pieces
      "[<b>C
D]</b>[NAME: ]<b>Bo]:</b>] pays[name: [Z ][NAME: Y]".toList)).head? =
        some "<b>[Z</b>".toList := by
    decide +kernel
  have hname : value "NAME".toList = some "[Z".toList := by
    rw [hhead] at hfirst
    obtain ⟨v, hv, hbold⟩ := Option.map_eq_some_iff.1 hfirst.symm
    have hz : bold v = bold "[Z".toList := hbold
    rw [hv, List.append_cancel_left (List.append_cancel_right hz)]
  have hoffer : (fun p : Placeholder =>
      (if p.isBare then (dinnerOut.fieldKeys.find? p.hasKey).bind value else none).getD p.written) =
        fun p => if p.isBare && p.hasKey "NAME".toList then "[Z".toList else p.written := by
    have hkeys : dinnerOut.fieldKeys = ["NAME".toList] := rfl
    rw [hkeys]
    generalize "NAME".toList = name at hname
    funext p
    by_cases hkey : p.hasKey name = true <;> by_cases hbare : p.isBare = true <;>
      simp [hkey, hbare, hname]
  refine ⟨hbracketless, ?_, ?_⟩
  · rw [hsubstitute, hpass]
    decide +kernel
  · rw [htitle, hoffer]
    decide +kernel

end Resolver

end EventText
