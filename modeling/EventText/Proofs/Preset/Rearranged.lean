import EventText.Proofs.Preset.Validation
import EventText.Proofs.Resolver.TitleValues
import EventText.Proofs.Text.AsciiCase

/-! Presets that declare the same keys. Neither the order in which a preset lists the keys of a role nor
the case of a declared key matters: the other preset is accepted too, and both resolve every description
and every title alike, with the same draws (`resolve_rearranged`). -/

namespace EventText

/-- The second list has the keys of the first in some order, each in some case. -/
def Rearranged (a b : List Text) : Prop :=
  ∃ c, a.Perm c ∧ List.Forall₂ (fun x y => x.asciiUpper = y.asciiUpper) c b

/-- The second preset lists the keys of each role in another order and in other cases, and has its
suffixes, in their order, for keys in other cases; in all else it is the first. -/
structure Preset.Rearranges (p q : Preset) : Prop where
  label_eq : q.label = p.label
  title_eq : q.title = p.title
  description_eq : q.description = p.description
  keys : ∀ role, Rearranged (p.keysOf role) (q.keysOf role)
  suffixes : List.Forall₂ (fun a b => a.1.asciiUpper = b.1.asciiUpper ∧ a.2 = b.2)
    p.personSuffixes q.personSuffixes
  annotate_eq : q.annotate = p.annotate
  titleRule_eq : q.titleRule = p.titleRule

theorem Rearranged.perm {a b : List Text} (h : Rearranged a b) :
    (a.map Text.asciiUpper).Perm (b.map Text.asciiUpper) := by
  obtain ⟨c, hperm, hsame⟩ := h
  have hmap : c.map Text.asciiUpper = b.map Text.asciiUpper := by
    rw [← List.forall₂_eq_eq_eq, List.forall₂_map_left_iff, List.forall₂_map_right_iff]
    exact hsame
  rw [← hmap]
  exact hperm.map Text.asciiUpper

section Keys

theorem isKeyChar_toUpper (c : Char) : isKeyChar c.toUpper = isKeyChar c :=
  toUpper_rec (motive := fun c d => isKeyChar d = isKeyChar c) (fun _ => rfl) (by decide +kernel) c

theorem isValidKey_asciiUpper (key : Text) : isValidKey key.asciiUpper = isValidKey key := by
  have hchars : isKeyChar ∘ Char.toUpper = isKeyChar := funext isKeyChar_toUpper
  rw [isValidKey, isValidKey, Text.asciiUpper, List.all_map, List.isEmpty_map, hchars]

namespace Preset

theorem isSpelled_congr {a b : Text} (h : a.asciiUpper = b.asciiUpper) (ha : IsSpelled a) :
    IsSpelled b := by
  rw [← isSpelled_iff] at ha ⊢
  rw [← isValidKey_asciiUpper, ← h, isValidKey_asciiUpper]
  exact ha

theorem SoundKeys.of_perm {a b : List Text} (h : SoundKeys a)
    (hperm : (a.map Text.asciiUpper).Perm (b.map Text.asciiUpper)) : SoundKeys b := by
  have hcounterpart : ∀ key ∈ b, ∃ k ∈ a, k.asciiUpper = key.asciiUpper := by
    intro key hkey
    exact List.mem_map.1 (hperm.mem_iff.2 (List.mem_map_of_mem hkey))
  refine ⟨?_, ?_, hperm.nodup_iff.1 h.distinct⟩
  · intro key hkey
    obtain ⟨k, hk, hsame⟩ := hcounterpart key hkey
    exact isSpelled_congr hsame (h.spelled k hk)
  · intro key hkey
    obtain ⟨k, hk, hsame⟩ := hcounterpart key hkey
    rw [IsReserved, ← hsame]
    exact h.free k hk

/-- Among the keys of one role, a key has that role or none. -/
theorem role_find?_map (keys : List Text) (role : Role) (key : Text) :
    ((keys.map (·, role)).find? fun entry => entry.1.sameAscii key).map (·.2) =
      if keys.any (·.sameAscii key) then some role else none := by
  have hfind : ((keys.map (·, role)).find? fun entry => entry.1.sameAscii key) =
      (keys.find? (·.sameAscii key)).map (·, role) := List.find?_map
  rw [hfind, ← List.isSome_find?]
  cases keys.find? (·.sameAscii key) <;> rfl

/-- The role of a key is the first one that has it among its keys. -/
theorem role?_eq_find? (p : Preset) (key : Text) :
    p.role? key = [Role.choice, .person, .field].find? fun role =>
      (p.keysOf role).any (·.sameAscii key) := by
  rw [role?, keys, List.find?_append, List.find?_append, Option.map_or, Option.map_or,
    role_find?_map, role_find?_map, role_find?_map]
  simp only [List.find?_cons, List.find?_nil, keysOf]
  cases p.choiceKeys.any (·.sameAscii key) <;> cases p.personKeys.any (·.sameAscii key) <;>
    cases p.fieldKeys.any (·.sameAscii key) <;> rfl

end Preset

end Keys

namespace Preset.Rearranges

variable {p q : Preset}

theorem role?_eq (h : p.Rearranges q) : q.role? = p.role? := by
  funext key
  have hany : ∀ role, (q.keysOf role).any (·.sameAscii key) = (p.keysOf role).any (·.sameAscii key) := by
    intro role
    rw [Bool.eq_iff_iff, any_sameAscii_iff, any_sameAscii_iff]
    exact (h.keys role).perm.mem_iff.symm
  simp only [role?_eq_find?, hany]

def upperEntry (entry : Text × Text) : Text × Text :=
  (entry.1.asciiUpper, entry.2)

theorem map_upperEntry (h : p.Rearranges q) :
    q.personSuffixes.map upperEntry = p.personSuffixes.map upperEntry := by
  rw [eq_comm, ← List.forall₂_eq_eq_eq, List.forall₂_map_left_iff, List.forall₂_map_right_iff]
  exact h.suffixes.imp fun a b hab => Prod.ext hab.1 hab.2

theorem suffix?_eq_upper (p : Preset) (key : Text) :
    p.suffix? key =
      ((p.personSuffixes.map upperEntry).find? (·.1 == key.asciiUpper)).map (·.2) := by
  rw [List.find?_map, Option.map_map]
  rfl

theorem suffix?_eq (h : p.Rearranges q) : q.suffix? = p.suffix? := by
  funext key
  rw [suffix?_eq_upper, suffix?_eq_upper, h.map_upperEntry]

theorem declares (h : p.Rearranges q) {role : Role} {key : Text} (hkey : p.Declares role key) :
    q.Declares role key := by
  obtain ⟨declared, hdeclared, hsame⟩ := hkey
  have hmem : key.asciiUpper ∈ (q.keysOf role).map Text.asciiUpper := by
    apply (h.keys role).perm.mem_iff.1
    rw [← hsame]
    exact List.mem_map_of_mem hdeclared
  exact List.mem_map.1 hmem

theorem valid (h : p.Rearranges q) (hp : p.Valid) : q.Valid := by
  have hperm : ((p.choiceKeys ++ p.personKeys ++ p.fieldKeys).map Text.asciiUpper).Perm
      ((q.choiceKeys ++ q.personKeys ++ q.fieldKeys).map Text.asciiUpper) := by
    simp only [List.map_append]
    exact ((h.keys .choice).perm.append (h.keys .person).perm).append (h.keys .field).perm
  refine ⟨?_, hp.keys_sound.of_perm hperm, ?_⟩
  · rw [h.label_eq]
    exact hp.label_visible
  · intro entry hentry
    have hmem : upperEntry entry ∈ p.personSuffixes.map upperEntry := by
      rw [← h.map_upperEntry]
      exact List.mem_map_of_mem hentry
    obtain ⟨old, hold, hsame⟩ := List.mem_map.1 hmem
    obtain ⟨declared, hdeclared, hkey⟩ := h.declares (hp.suffixes_declared old hold)
    exact ⟨declared, hdeclared, hkey.trans (congrArg Prod.fst hsame)⟩

end Preset.Rearranges

namespace Resolver

section Congr

variable {p q : Preset}

/-- Of a preset, resolving a description reads the roles of keys, their suffixes and the annotation. -/
theorem resolve_congr (r : Resolver) (hrole : q.role? = p.role?) (hsuffix : q.suffix? = p.suffix?)
    (hannotate : q.annotate = p.annotate) (description : Text) :
    r.resolve q description = r.resolve p description := by
  have hperson : r.answerPerson q = r.answerPerson p := by
    funext t
    simp only [answerPerson, hrole, hsuffix]
  have hchoice : answerChoice q = answerChoice p := by
    funext t
    simp only [answerChoice, hrole]
  have hfield : answerField q = answerField p := by
    funext t
    simp only [answerField, hrole]
  simp only [resolve, substitute, personPass, choicePass, fieldPass, hperson, hchoice, hfield,
    hannotate]

theorem resolveTitle_congr (r : Resolver) (hrole : q.role? = p.role?)
    (hrule : q.titleRule = p.titleRule) (title description : Text) (start : TimeOfDay) :
    r.resolveTitle q title description start = r.resolveTitle p title description start := by
  have hanswer : answerTitle q = answerTitle p := by
    funext sources t
    simp only [answerTitle, hrole]
  simp only [resolveTitle, substituteTitle_eq, hanswer, hrule]

end Congr

/-- Only which keys a preset declares for a role matters, up to case, and not how it lists them. With the
keys of each role in another order and in other cases, an accepted preset is accepted; every source gives
the same text for every description, and is left the same after the same number of draws; and every title
is resolved alike. -/
theorem resolve_rearranged (p q : Preset) (h : p.Rearranges q) :
    (p.validate = .ok p → q.validate = .ok q) ∧
    (∀ (r : Resolver) (description : Text) (σ : Type) [Source σ] (source : σ),
      (r.resolve q description).run source = (r.resolve p description).run source) ∧
    ∀ (r : Resolver) (title description : Text) (start : TimeOfDay),
      r.resolveTitle q title description start = r.resolveTitle p title description start := by
  refine ⟨?_, ?_, ?_⟩
  · intro haccepted
    rw [Preset.validate_eq_ok_iff] at haccepted ⊢
    exact ⟨rfl, h.valid haccepted.2⟩
  · intro r description σ _ source
    rw [resolve_congr r h.role?_eq h.suffix?_eq h.annotate_eq]
  · intro r title description start
    exact resolveTitle_congr r h.role?_eq h.titleRule_eq title description start

def movieEvening : Preset where
  label := "Evening".toList
  choiceKeys := ["Food".toList, "FILM".toList]
  personKeys := ["who".toList]
  fieldKeys := ["a1".toList]
  personSuffixes := [("WHO".toList, " pays".toList)]

def eveningMovie : Preset :=
  { movieEvening with
    choiceKeys := ["film".toList, "FOOD".toList]
    personKeys := ["Who".toList]
    fieldKeys := ["A1".toList]
    personSuffixes := [("wHO".toList, " pays".toList)] }

theorem resolve_rearranged_evening :
    let description := "[WHO]: [fOOd: x, y] [Film: z][who] [a1: v]".toList
    movieEvening.Rearranges eveningMovie ∧ eveningMovie.validate = .ok eveningMovie ∧
    (oddNames.resolve eveningMovie description).run (Script.mk [1, 0]) =
      (oddNames.resolve movieEvening description).run (Script.mk [1, 0]) ∧
    ((oddNames.resolve eveningMovie description).run (Script.mk [1, 0])).value = some
      ("<b>C\nD]</b> pays: <b>x</b>\nBetter luck next time for y. <b>z</b><b>C\nD]</b> pays " ++
        "<b>v</b>").toList := by
  intro description
  have hrearranges : movieEvening.Rearranges eveningMovie := by
    refine ⟨rfl, rfl, rfl, ?_, .cons (by decide) .nil, rfl, rfl⟩
    intro role
    cases role with
    | choice =>
      exact ⟨["FILM".toList, "Food".toList], .swap .., .cons (by decide) (.cons (by decide) .nil)⟩
    | person => exact ⟨["who".toList], .refl _, .cons (by decide) .nil⟩
    | field => exact ⟨["a1".toList], .refl _, .cons (by decide) .nil⟩
  obtain ⟨haccepted, hrun, -⟩ := resolve_rearranged movieEvening eveningMovie hrearranges
  have hsame := hrun oddNames description Script (Script.mk [1, 0])
  refine ⟨hrearranges, haccepted rfl, hsame, ?_⟩
  rw [hsame]
  decide +kernel

end Resolver

end EventText
