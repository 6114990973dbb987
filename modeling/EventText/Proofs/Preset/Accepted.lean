import EventText.Proofs.Preset.Validation
import EventText.Resolver

/-! What validation promises of an accepted preset: its keys are not those of the pair, and each has one
role, so a placeholder can be for one pass only (`eligible_unique`). Together with what is accepted, and
what is said of a preset that is not, this is `validate_exact`. -/

namespace EventText

inductive Pass where
  | linked
  | person
  | choice
  | field

/-- The pass puts something in for the placeholder, at least after some draws. -/
def Pass.Answers (r : Resolver) (p : Preset) (t : Placeholder) : Pass → Prop
  | linked => r.answerLinked t ≠ pure none
  | person => r.answerPerson p t ≠ pure none
  | choice => Resolver.answerChoice p t ≠ pure none
  | field => Resolver.answerField p t ≠ none

namespace Preset

def Eligible (p : Preset) (t : Placeholder) : Pass → Prop
  | .linked => t.isBare = true ∧ IsReserved t.key
  | .person => t.isBare = true ∧ p.Declares .person t.key
  | .choice => t.isBare = false ∧ p.Declares .choice t.key
  | .field => t.isBare = false ∧ p.Declares .field t.key

variable {p : Preset} {t : Placeholder}

theorem not_isReserved_of_declares (h : p.Valid) {role : Role} {key : Text}
    (hkey : p.Declares role key) : ¬ IsReserved key := by
  obtain ⟨declared, hdeclared, hsame⟩ := hkey
  have hmem : declared ∈ p.choiceKeys ++ p.personKeys ++ p.fieldKeys := by
    rw [← map_fst_keys]
    exact List.mem_map.2 ⟨(declared, role), mem_keys_iff.2 hdeclared, rfl⟩
  have hfree := h.keys_sound.free declared hmem
  rwa [IsReserved, hsame] at hfree

/-- No key of an accepted preset is a key of the pair. -/
theorem role?_eq_none_of_linked {q : Preset} (h : p.validate = .ok q) {key linked : Text}
    (hlinked : linked ∈ linkedKeys) (hkey : key.asciiUpper = linked.asciiUpper) :
    p.role? key = none := by
  have hvalid := (validate_eq_ok_iff.1 h).2
  have hreserved : IsReserved key :=
    isReserved_iff.1 (List.any_eq_true.2 ⟨linked, hlinked, by simp [Text.sameAscii, hkey]⟩)
  rw [Option.eq_none_iff_forall_ne_some]
  intro role hrole
  exact not_isReserved_of_declares hvalid ((role?_eq_some_iff hvalid.keys_sound).1 hrole) hreserved

theorem declares_unique (h : p.Valid) {key : Text} {a b : Role} (ha : p.Declares a key)
    (hb : p.Declares b key) : a = b := by
  rw [← role?_eq_some_iff h.keys_sound] at ha hb
  exact Option.some.inj (ha.symm.trans hb)

/-- A placeholder is for one pass at most. -/
theorem eligible_unique (h : p.Valid) {a b : Pass} (ha : p.Eligible t a) (hb : p.Eligible t b) :
    a = b := by
  have hform : t.isBare = true → t.isBare = false → False := fun hbare hkeyed =>
    Bool.false_ne_true (hkeyed.symm.trans hbare)
  have hrole : ∀ {a b : Role}, p.Declares a t.key → p.Declares b t.key → a = b :=
    fun ha hb => declares_unique h ha hb
  cases a with
  | linked =>
    cases b with
    | linked => rfl
    | person => exact absurd ha.2 (not_isReserved_of_declares h hb.2)
    | choice | field => exact (hform ha.1 hb.1).elim
  | person =>
    cases b with
    | linked => exact absurd hb.2 (not_isReserved_of_declares h ha.2)
    | person => rfl
    | choice | field => exact (hform ha.1 hb.1).elim
  | choice =>
    cases b with
    | linked | person => exact (hform hb.1 ha.1).elim
    | choice => rfl
    | field => cases hrole ha.2 hb.2
  | field =>
    cases b with
    | linked | person => exact (hform hb.1 ha.1).elim
    | choice => cases hrole ha.2 hb.2
    | field => rfl

theorem eligible_of_answers (h : p.Valid) {r : Resolver} {pass : Pass} (hpass : pass.Answers r p t) :
    p.Eligible t pass := by
  have hdeclares : ∀ {role : Role}, p.role? t.key = some role → p.Declares role t.key :=
    (role?_eq_some_iff h.keys_sound).1
  cases pass with
  | linked =>
    have hlinked : (t.isBare && (t.hasKey ['A'] || t.hasKey ['B'])) = true := by
      by_contra hnot
      exact hpass (by rw [Resolver.answerLinked, if_neg hnot])
    obtain ⟨hbare, hkey⟩ := Bool.and_eq_true_iff.1 hlinked
    refine ⟨hbare, ?_⟩
    simpa [Placeholder.hasKey, Text.sameAscii, asciiUpper_linkedKeys, IsReserved] using hkey
  | person =>
    have hperson : (t.isBare && p.role? t.key == some .person) = true := by
      by_contra hnot
      exact hpass (by rw [Resolver.answerPerson, if_neg hnot])
    obtain ⟨hbare, hkey⟩ := Bool.and_eq_true_iff.1 hperson
    exact ⟨hbare, hdeclares (by simpa using hkey)⟩
  | choice =>
    cases hpayload : t.payload with
    | none => exact absurd (by simp only [Resolver.answerChoice, hpayload]) hpass
    | some payload =>
      have hkey : (p.role? t.key == some .choice) = true := by
        by_contra hnot
        exact hpass (by simp only [Resolver.answerChoice, hpayload, hnot]; rfl)
      exact ⟨by simp [Placeholder.isBare, hpayload], hdeclares (by simpa using hkey)⟩
  | field =>
    cases hpayload : t.payload with
    | none => exact absurd (by simp only [Resolver.answerField, hpayload]) hpass
    | some payload =>
      have hkey : (p.role? t.key == some .field) = true := by
        by_contra hnot
        exact hpass (by simp only [Resolver.answerField, hpayload, hnot]; rfl)
      exact ⟨by simp [Placeholder.isBare, hpayload], hdeclares (by simpa using hkey)⟩

/-- Validation accepts just the valid presets and gives them back, and refuses any other for the first rule
that it breaks. In an accepted preset a key has the role that it is declared for, in any case; a placeholder
is for one pass at most, and no other pass puts anything in for it. -/
theorem validate_exact (p : Preset) :
    (∀ q, p.validate = .ok q ↔ q = p ∧ p.Valid) ∧
    (∀ e, p.validate = .error e ↔ e.label = p.label ∧ p.FirstViolation e.violation) ∧
    (p.validate = .ok p →
      (∀ key role, p.role? key = some role ↔ p.Declares role key) ∧
      (∀ (t : Placeholder) (a b : Pass), p.Eligible t a → p.Eligible t b → a = b) ∧
      ∀ (r : Resolver) (t : Placeholder) (pass : Pass), pass.Answers r p t → p.Eligible t pass) := by
  refine ⟨fun q => validate_eq_ok_iff, fun e => validate_eq_error_iff, fun haccepted => ?_⟩
  have hvalid := (validate_eq_ok_iff.1 haccepted).2
  exact ⟨fun key role => role?_eq_some_iff hvalid.keys_sound, fun t a b => eligible_unique hvalid,
    fun r t pass => eligible_of_answers hvalid⟩

/-- Keys of each role in mixed case, and a suffix for a key that is declared in another case. -/
def mixedCase : Preset where
  label := "\u3000Dinner ".toList
  choiceKeys := ["Food".toList]
  personKeys := ["who_PAYS".toList]
  fieldKeys := ["a1".toList, "_B".toList]
  personSuffixes := [("WHO_pays".toList, " pays".toList)]

theorem validate_exact_mixed_case :
    mixedCase.validate = .ok mixedCase ∧
    mixedCase.role? "A1".toList = some .field ∧ mixedCase.role? "B".toList = none ∧
    (Pass.field.Answers default mixedCase ⟨"_b".toList, some " x".toList⟩ ∧
      mixedCase.Eligible ⟨"_b".toList, some " x".toList⟩ .field) ∧
    { mixedCase with fieldKeys := ["FOOD".toList, "b".toList] }.validate =
      .error ⟨mixedCase.label, .repeatedKey "FOOD".toList⟩ := by
  have haccepted : mixedCase.validate = .ok mixedCase := rfl
  obtain ⟨-, -, hpromises⟩ := validate_exact mixedCase
  obtain ⟨hrole, -, heligible⟩ := hpromises haccepted
  have hanswers : Pass.field.Answers default mixedCase ⟨"_b".toList, some " x".toList⟩ := by
    change Resolver.answerField mixedCase ⟨"_b".toList, some " x".toList⟩ ≠ none
    decide
  refine ⟨haccepted, (hrole _ _).2 ⟨"a1".toList, by decide, by decide⟩, by decide,
    ⟨hanswers, heligible default _ .field hanswers⟩, rfl⟩

end Preset

end EventText
