import EventText.Preset
import EventText.Proofs.Text.Trim
import Mathlib.Data.List.Nodup
import Mathlib.Tactic.Common

/-! Validation of presets. What a valid preset is, and what the first rule is that another one breaks, are
stated without the order of the checks in `violation?`: a list of keys is sound, or it has a sound front and
a fault behind it. Validation finds just that (`violation?_eq_none_iff`, `violation?_eq_some_iff`), and the
keys of a valid preset have the one role they are declared for (`role?_eq_some_iff`). -/

namespace EventText.Preset

def IsSpelled (key : Text) : Prop :=
  key ≠ [] ∧ ∀ c ∈ key, c.isAlphanum = true ∨ c = '_'

def IsReserved (key : Text) : Prop :=
  key.asciiUpper = ['A'] ∨ key.asciiUpper = ['B']

structure SoundKeys (keys : List Text) : Prop where
  spelled : ∀ key ∈ keys, IsSpelled key
  free : ∀ key ∈ keys, ¬ IsReserved key
  distinct : (keys.map Text.asciiUpper).Nodup

/-- The rule that a key breaks when the keys `earlier` are declared before it. -/
inductive KeyFault (earlier : List Text) (key : Text) (role : Role) : Violation → Prop where
  | malformed : ¬ IsSpelled key → KeyFault earlier key role (.malformedKey role key)
  | reserved : IsSpelled key → IsReserved key → KeyFault earlier key role (.reservedKey key)
  | repeated : IsSpelled key → ¬ IsReserved key → key.asciiUpper ∈ earlier.map Text.asciiUpper →
      KeyFault earlier key role (.repeatedKey key)

def keysOf (p : Preset) : Role → List Text
  | .choice => p.choiceKeys
  | .person => p.personKeys
  | .field => p.fieldKeys

/-- The key is declared for the role, in any case. -/
def Declares (p : Preset) (role : Role) (key : Text) : Prop :=
  ∃ declared ∈ p.keysOf role, declared.asciiUpper = key.asciiUpper

structure Valid (p : Preset) : Prop where
  label_visible : p.label.IsVisible
  keys_sound : SoundKeys (p.choiceKeys ++ p.personKeys ++ p.fieldKeys)
  suffixes_declared : ∀ entry ∈ p.personSuffixes, p.Declares .person entry.1

/-- The first rule that a preset breaks: of its label, then of its keys, then of its suffixes. -/
inductive FirstViolation (p : Preset) : Violation → Prop where
  | label : ¬ p.label.IsVisible → FirstViolation p .blankLabel
  | key {before after : List (Text × Role)} {key : Text} {role : Role} {violation : Violation} :
      p.label.IsVisible → p.keys = before ++ (key, role) :: after →
        SoundKeys (before.map Prod.fst) → KeyFault (before.map Prod.fst) key role violation →
          FirstViolation p violation
  | suffix {before after : List (Text × Text)} {key suffix : Text} :
      p.label.IsVisible → SoundKeys (p.choiceKeys ++ p.personKeys ++ p.fieldKeys) →
        p.personSuffixes = before ++ (key, suffix) :: after →
          (∀ entry ∈ before, p.Declares .person entry.1) → ¬ p.Declares .person key →
            FirstViolation p (.strangeSuffix key)

theorem isSpelled_iff {key : Text} : isValidKey key = true ↔ IsSpelled key := by
  simp [isValidKey, isKeyChar, IsSpelled]

theorem asciiUpper_linkedKeys : Text.asciiUpper ['A'] = ['A'] ∧ Text.asciiUpper ['B'] = ['B'] := by
  decide

theorem isReserved_iff {key : Text} :
    linkedKeys.any (·.sameAscii key) = true ↔ IsReserved key := by
  simp only [linkedKeys, List.any_cons, List.any_nil, Bool.or_false, Bool.or_eq_true, Text.sameAscii,
    beq_iff_eq, asciiUpper_linkedKeys]
  exact or_congr eq_comm eq_comm

theorem any_sameAscii_iff {earlier : List Text} {key : Text} :
    earlier.any (·.sameAscii key) = true ↔ key.asciiUpper ∈ earlier.map Text.asciiUpper := by
  simp [Text.sameAscii]

section Keys

variable {earlier : List Text} {key : Text} {role : Role} {violation : Violation}

theorem SoundKeys.of_append {keys others : List Text} (h : SoundKeys (keys ++ others)) :
    SoundKeys keys where
  spelled := fun key hkey => h.spelled key (List.mem_append_left _ hkey)
  free := fun key hkey => h.free key (List.mem_append_left _ hkey)
  distinct := by
    have hdistinct := h.distinct
    rw [List.map_append] at hdistinct
    exact hdistinct.of_append_left

/-- One more key is sound when it is spelled, free and new. -/
theorem soundKeys_concat_iff :
    SoundKeys (earlier ++ [key]) ↔ SoundKeys earlier ∧ IsSpelled key ∧ ¬ IsReserved key ∧
      key.asciiUpper ∉ earlier.map Text.asciiUpper := by
  have hnodup : ((earlier ++ [key]).map Text.asciiUpper).Nodup ↔
      (earlier.map Text.asciiUpper).Nodup ∧ key.asciiUpper ∉ earlier.map Text.asciiUpper := by
    rw [List.map_append, List.map_singleton, ← List.concat_eq_append, List.nodup_concat, and_comm]
  constructor
  · intro h
    have hlast : key ∈ earlier ++ [key] := List.mem_append_right _ (List.mem_singleton_self key)
    exact ⟨h.of_append, h.spelled key hlast, h.free key hlast, (hnodup.1 h.distinct).2⟩
  · rintro ⟨hearlier, hspelled, hfree, hnew⟩
    refine ⟨?_, ?_, hnodup.2 ⟨hearlier.distinct, hnew⟩⟩
    · exact List.forall_mem_append.2 ⟨hearlier.spelled, by simpa using hspelled⟩
    · exact List.forall_mem_append.2 ⟨hearlier.free, by simpa using hfree⟩

/-- The next key is sound or has a fault. -/
theorem soundKeys_or_keyFault (h : SoundKeys earlier) (key : Text) (role : Role) :
    SoundKeys (earlier ++ [key]) ∨ ∃ violation, KeyFault earlier key role violation := by
  by_cases hspelled : IsSpelled key
  · by_cases hreserved : IsReserved key
    · exact .inr ⟨_, .reserved hspelled hreserved⟩
    · by_cases hnew : key.asciiUpper ∈ earlier.map Text.asciiUpper
      · exact .inr ⟨_, .repeated hspelled hreserved hnew⟩
      · exact .inl (soundKeys_concat_iff.2 ⟨h, hspelled, hreserved, hnew⟩)
  · exact .inr ⟨_, .malformed hspelled⟩

theorem keyViolation?_of_fault (h : KeyFault earlier key role violation)
    (rest : List (Text × Role)) :
    keyViolation? earlier.reverse ((key, role) :: rest) = some violation := by
  cases h with
  | malformed hspelled =>
    rw [← isSpelled_iff] at hspelled
    simp only [keyViolation?, hspelled, Bool.not_false, ↓reduceIte]
  | reserved hspelled hreserved =>
    rw [← isSpelled_iff] at hspelled
    rw [← isReserved_iff] at hreserved
    simp only [keyViolation?, hspelled, hreserved, Bool.not_true, Bool.false_eq_true, ↓reduceIte]
  | repeated hspelled hreserved hmem =>
    rw [← isSpelled_iff] at hspelled
    rw [← isReserved_iff] at hreserved
    rw [← any_sameAscii_iff, ← List.any_reverse] at hmem
    simp only [keyViolation?, hspelled, hreserved, hmem, Bool.not_true, Bool.false_eq_true,
      ↓reduceIte]

theorem keyViolation?_of_sound (h : SoundKeys (earlier ++ [key])) (rest : List (Text × Role)) :
    keyViolation? earlier.reverse ((key, role) :: rest) =
      keyViolation? (earlier ++ [key]).reverse rest := by
  obtain ⟨-, hspelled, hreserved, hnew⟩ := soundKeys_concat_iff.1 h
  rw [← isSpelled_iff] at hspelled
  rw [← isReserved_iff] at hreserved
  rw [← any_sameAscii_iff, ← List.any_reverse] at hnew
  simp only [keyViolation?, hspelled, hreserved, hnew, Bool.not_true, Bool.false_eq_true,
    ↓reduceIte, List.reverse_append, List.reverse_singleton, List.singleton_append]

theorem keyViolation?_append (earlier : List Text) {before : List (Text × Role)}
    (h : SoundKeys (earlier ++ before.map Prod.fst)) (rest : List (Text × Role)) :
    keyViolation? earlier.reverse (before ++ rest) =
      keyViolation? (earlier ++ before.map Prod.fst).reverse rest := by
  induction before generalizing earlier with
  | nil => rw [List.map_nil, List.append_nil, List.nil_append]
  | cons entry before ih =>
    rw [List.map_cons, List.append_cons] at h
    rw [List.cons_append, keyViolation?_of_sound h.of_append, ih _ h, List.map_cons,
      ← List.append_cons]

/-- Keys are sound, or a sound front of them is followed by a key with a fault. -/
theorem soundKeys_or_firstFault (h : SoundKeys earlier) (keys : List (Text × Role)) :
    SoundKeys (earlier ++ keys.map Prod.fst) ∨
      ∃ before key role after violation, keys = before ++ (key, role) :: after ∧
        SoundKeys (earlier ++ before.map Prod.fst) ∧
        KeyFault (earlier ++ before.map Prod.fst) key role violation := by
  induction keys generalizing earlier with
  | nil => exact .inl (by rwa [List.map_nil, List.append_nil])
  | cons entry rest ih =>
    obtain ⟨key, role⟩ := entry
    rcases soundKeys_or_keyFault h key role with hkey | ⟨violation, hfault⟩
    · rw [List.map_cons, List.append_cons]
      refine (ih hkey).imp_right ?_
      rintro ⟨before, next, role', after, violation, rfl, hbefore, hfault⟩
      refine ⟨(key, role) :: before, next, role', after, violation, rfl, ?_⟩
      rw [List.map_cons, List.append_cons]
      exact ⟨hbefore, hfault⟩
    · refine .inr ⟨[], key, role, rest, violation, rfl, ?_⟩
      rw [List.map_nil, List.append_nil]
      exact ⟨h, hfault⟩

end Keys

section Roles

variable {p : Preset} {key : Text} {role : Role}

theorem map_fst_keys (p : Preset) :
    p.keys.map Prod.fst = p.choiceKeys ++ p.personKeys ++ p.fieldKeys := by
  simp [keys, Function.comp_def]

theorem mem_keys_iff : (key, role) ∈ p.keys ↔ key ∈ p.keysOf role := by
  cases role <;> simp [keys, keysOf]

/-- Of keys that are all different, the first with a given spelling is the only one. -/
theorem role?_eq_some_iff (h : SoundKeys (p.choiceKeys ++ p.personKeys ++ p.fieldKeys)) :
    p.role? key = some role ↔ p.Declares role key := by
  have hdistinct : (p.keys.map fun entry => entry.1.asciiUpper).Nodup := by
    have hupper := h.distinct
    rwa [← map_fst_keys, List.map_map] at hupper
  constructor
  · intro hrole
    obtain ⟨⟨declared, role'⟩, hfind, rfl⟩ := Option.map_eq_some_iff.1 hrole
    exact ⟨declared, mem_keys_iff.1 (List.mem_of_find?_eq_some hfind),
      by simpa [Text.sameAscii] using List.find?_some hfind⟩
  · rintro ⟨declared, hdeclared, hsame⟩
    have hmem : (declared, role) ∈ p.keys := mem_keys_iff.2 hdeclared
    have hfound : (p.keys.find? fun entry => entry.1.sameAscii key).isSome = true :=
      List.find?_isSome.2 ⟨_, hmem, by simp [Text.sameAscii, hsame]⟩
    obtain ⟨entry, hentry⟩ := Option.isSome_iff_exists.1 hfound
    have hkey : entry.1.asciiUpper = key.asciiUpper := by
      simpa [Text.sameAscii] using List.find?_some hentry
    have heq : entry = (declared, role) :=
      List.inj_on_of_nodup_map hdistinct (List.mem_of_find?_eq_some hentry) hmem
        (hkey.trans hsame.symm)
    rw [role?, hentry, heq]
    rfl

theorem suffixViolation?_eq_none_iff
    (h : SoundKeys (p.choiceKeys ++ p.personKeys ++ p.fieldKeys)) :
    p.suffixViolation? = none ↔ ∀ entry ∈ p.personSuffixes, p.Declares .person entry.1 := by
  simp only [suffixViolation?, Option.map_eq_none_iff, List.find?_eq_none, bne_iff_ne, ne_eq,
    role?_eq_some_iff h, not_not]

theorem suffixViolation?_eq_some_iff
    (h : SoundKeys (p.choiceKeys ++ p.personKeys ++ p.fieldKeys)) {violation : Violation} :
    p.suffixViolation? = some violation ↔ ∃ before key suffix after,
      p.personSuffixes = before ++ (key, suffix) :: after ∧
      (∀ entry ∈ before, p.Declares .person entry.1) ∧ ¬ p.Declares .person key ∧
      violation = .strangeSuffix key := by
  simp only [suffixViolation?, Option.map_eq_some_iff, List.find?_eq_some_iff_append, bne_iff_ne,
    ne_eq, Bool.not_eq_true', bne_eq_false_iff_eq, role?_eq_some_iff h]
  constructor
  · rintro ⟨⟨key, suffix⟩, ⟨hkey, before, after, hsplit, hbefore⟩, rfl⟩
    exact ⟨before, key, suffix, after, hsplit, hbefore, hkey, rfl⟩
  · rintro ⟨before, key, suffix, after, hsplit, hbefore, hkey, rfl⟩
    exact ⟨(key, suffix), ⟨hkey, before, after, hsplit, hbefore⟩, rfl⟩

end Roles

section Violations

variable {p : Preset} {violation : Violation}

theorem violation?_of_visible (h : p.label.IsVisible) :
    p.violation? = (keyViolation? [] p.keys).or p.suffixViolation? := by
  have hlabel : ¬ p.label.trim.isEmpty = true := by
    rw [List.isEmpty_iff]
    exact Text.trim_ne_nil_iff.2 h
  rw [violation?, if_neg hlabel]

theorem keyViolation?_of_soundKeys
    (h : SoundKeys (p.choiceKeys ++ p.personKeys ++ p.fieldKeys)) : keyViolation? [] p.keys = none := by
  rw [← map_fst_keys] at h
  have hall := keyViolation?_append [] h []
  rwa [List.append_nil] at hall

theorem violation?_of_valid (h : p.Valid) : p.violation? = none := by
  rw [violation?_of_visible h.label_visible, keyViolation?_of_soundKeys h.keys_sound, Option.none_or]
  exact (suffixViolation?_eq_none_iff h.keys_sound).2 h.suffixes_declared

theorem violation?_of_firstViolation (h : p.FirstViolation violation) :
    p.violation? = some violation := by
  cases h with
  | label hblank =>
    have hlabel : p.label.trim.isEmpty = true := by
      rw [List.isEmpty_iff]
      by_contra hne
      exact hblank (Text.trim_ne_nil_iff.1 hne)
    rw [violation?, if_pos hlabel]
  | @key before after key role _ hvisible hsplit hbefore hfault =>
    have hkeys : keyViolation? [] p.keys = some violation := by
      rw [hsplit]
      exact (keyViolation?_append [] hbefore _).trans (keyViolation?_of_fault hfault after)
    rw [violation?_of_visible hvisible, hkeys, Option.some_or]
  | @suffix before after key suffix hvisible hsound hsplit hbefore hkey =>
    rw [violation?_of_visible hvisible, keyViolation?_of_soundKeys hsound, Option.none_or]
    exact (suffixViolation?_eq_some_iff hsound).2 ⟨before, key, suffix, after, hsplit, hbefore, hkey, rfl⟩

/-- A preset breaks no rule, or there is a first rule that it breaks. -/
theorem valid_or_firstViolation (p : Preset) : p.Valid ∨ ∃ violation, p.FirstViolation violation := by
  by_cases hvisible : p.label.IsVisible
  · have hnil : SoundKeys [] := ⟨by simp, by simp, .nil⟩
    rcases soundKeys_or_firstFault hnil p.keys with hsound |
      ⟨before, key, role, after, violation, hsplit, hbefore, hfault⟩
    · rw [List.nil_append, map_fst_keys] at hsound
      cases hsuffix : p.suffixViolation? with
      | none => exact .inl ⟨hvisible, hsound, (suffixViolation?_eq_none_iff hsound).1 hsuffix⟩
      | some violation =>
        obtain ⟨before, key, suffix, after, hsplit, hbefore, hkey, rfl⟩ :=
          (suffixViolation?_eq_some_iff hsound).1 hsuffix
        exact .inr ⟨_, .suffix hvisible hsound hsplit hbefore hkey⟩
    · exact .inr ⟨violation, .key hvisible hsplit hbefore hfault⟩
  · exact .inr ⟨_, .label hvisible⟩

theorem violation?_eq_none_iff : p.violation? = none ↔ p.Valid := by
  refine ⟨fun h => ?_, violation?_of_valid⟩
  rcases p.valid_or_firstViolation with hvalid | ⟨violation, hfirst⟩
  · exact hvalid
  · rw [violation?_of_firstViolation hfirst] at h
    cases h

theorem violation?_eq_some_iff : p.violation? = some violation ↔ p.FirstViolation violation := by
  refine ⟨fun h => ?_, violation?_of_firstViolation⟩
  rcases p.valid_or_firstViolation with hvalid | ⟨first, hfirst⟩
  · rw [violation?_of_valid hvalid] at h
    cases h
  · rw [violation?_of_firstViolation hfirst] at h
    obtain rfl := Option.some.inj h
    exact hfirst

theorem validate_eq_ok_iff {q : Preset} : p.validate = .ok q ↔ q = p ∧ p.Valid := by
  rw [← violation?_eq_none_iff, validate]
  cases p.violation? <;> simp [eq_comm]

theorem validate_eq_error_iff {e : InvalidPreset} :
    p.validate = .error e ↔ e.label = p.label ∧ p.FirstViolation e.violation := by
  rw [← violation?_eq_some_iff, validate]
  obtain ⟨label, violation⟩ := e
  cases p.violation? <;> simp [eq_comm]

end Violations

end EventText.Preset
