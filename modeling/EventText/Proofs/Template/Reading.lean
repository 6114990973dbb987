import EventText.Template.Grammar
import Mathlib.Data.List.TakeWhile

/-! Reading a placeholder behind a bracket. `afterBracket?_eq_some_iff` says that what is read is
exactly a written form, so a text has at most one placeholder at its front. Whether a bracket that
was opened is closed again can be told character by character (`closesKey`, `closesPayload`); this
is the form in which later edits of the text are followed. -/

namespace EventText

/-- What a grammar can find: a key of key characters, and a payload that stays on its line and
stops before the first closing bracket. -/
structure Placeholder.WellFormed (p : Placeholder) : Prop where
  key_valid : isValidKey p.key = true
  payload_all : ∀ payload ∈ p.payload, ∀ c ∈ payload, isPayloadChar c = true

theorem isValidKey_iff (key : Text) :
    isValidKey key = true ↔ key ≠ [] ∧ ∀ c ∈ key, isKeyChar c = true := by
  simp [isValidKey]

theorem takeWhile_append_stop {p : Char → Bool} {body : Text} (stop : Char) (rest : Text)
    (hbody : ∀ c ∈ body, p c = true) (hstop : p stop = false) :
    (body ++ stop :: rest).takeWhile p = body := by
  rw [List.takeWhile_append_of_pos hbody, List.takeWhile_cons_of_neg (by simp [hstop]),
    List.append_nil]

theorem dropWhile_append_stop {p : Char → Bool} {body : Text} (stop : Char) (rest : Text)
    (hbody : ∀ c ∈ body, p c = true) (hstop : p stop = false) :
    (body ++ stop :: rest).dropWhile p = stop :: rest := by
  rw [List.dropWhile_append_of_pos hbody, List.dropWhile_cons_of_neg (by simp [hstop])]

theorem Placeholder.exists_written_eq_cons (p : Placeholder) : ∃ inner, p.written = '[' :: inner := by
  cases hpayload : p.payload <;> simp [written, hpayload]

theorem Placeholder.exists_written_eq (p : Placeholder) :
    ∃ inner, p.written = '[' :: (inner ++ [']']) := by
  cases hpayload : p.payload with
  | none => exact ⟨p.key, by simp [written, hpayload]⟩
  | some payload => exact ⟨p.key ++ ':' :: payload, by simp [written, hpayload]⟩

theorem isKeyChar_ne {c d : Char} (hc : isKeyChar c = true) (hd : isKeyChar d = false) : c ≠ d := by
  rintro rfl
  rw [hc] at hd
  cases hd

theorem afterBracket?_complete {p : Placeholder} (hp : p.WellFormed) (after : Text) :
    afterBracket? ((p.written ++ after).tail) = some (p, after) := by
  obtain ⟨key, payload⟩ := p
  obtain ⟨hne, hkey⟩ := (isValidKey_iff key).1 hp.key_valid
  cases payload with
  | none =>
    have htake := takeWhile_append_stop ']' after hkey (by decide)
    have hdrop := dropWhile_append_stop ']' after hkey (by decide)
    simp [Placeholder.written, afterBracket?, htake, hdrop, hne]
  | some payload =>
    have hpayload := hp.payload_all payload rfl
    have htake := takeWhile_append_stop ':' (payload ++ ']' :: after) hkey (by decide)
    have hdrop := dropWhile_append_stop ':' (payload ++ ']' :: after) hkey (by decide)
    have htake' := takeWhile_append_stop ']' after hpayload (by decide)
    have hdrop' := dropWhile_append_stop ']' after hpayload (by decide)
    simp [Placeholder.written, afterBracket?, htake, hdrop, htake', hdrop', hne]

theorem afterBracket?_sound {text after : Text} {p : Placeholder}
    (h : afterBracket? text = some (p, after)) :
    p.WellFormed ∧ '[' :: text = p.written ++ after := by
  have hkey : ∀ c ∈ text.takeWhile isKeyChar, isKeyChar c = true :=
    fun c hc => List.mem_takeWhile_imp hc
  have hsplit := List.takeWhile_append_dropWhile (p := isKeyChar) (l := text)
  unfold afterBracket? at h
  split at h
  · cases h
  · rename_i hne
    have hvalid : isValidKey (text.takeWhile isKeyChar) = true :=
      (isValidKey_iff _).2 ⟨by simpa using hne, hkey⟩
    split at h
    · rename_i rest hrest
      obtain ⟨rfl, rfl⟩ := Prod.mk.inj (Option.some.inj h)
      refine ⟨⟨hvalid, by simp⟩, ?_⟩
      rw [hrest] at hsplit
      simp [Placeholder.written, hsplit]
    · rename_i body hbody
      have hline := List.takeWhile_append_dropWhile (p := isPayloadChar) (l := body)
      split at h
      · rename_i rest hrest
        obtain ⟨rfl, rfl⟩ := Prod.mk.inj (Option.some.inj h)
        refine ⟨⟨hvalid, ?_⟩, ?_⟩
        · rintro payload hpayload c hc
          obtain rfl := Option.mem_some.1 hpayload
          exact List.mem_takeWhile_imp hc
        · rw [hrest] at hline
          rw [hbody, ← hline] at hsplit
          simp [Placeholder.written, hsplit]
      · cases h
    · cases h

/-- A placeholder is read behind a bracket exactly where its written form stands. -/
theorem afterBracket?_eq_some_iff {text after : Text} {p : Placeholder} :
    afterBracket? text = some (p, after) ↔ p.WellFormed ∧ '[' :: text = p.written ++ after := by
  constructor
  · exact afterBracket?_sound
  · rintro ⟨hp, htext⟩
    have := afterBracket?_complete hp after
    rwa [← htext] at this

/-- A payload that was begun is closed on its line. -/
def closesPayload : Text → Bool
  | [] => false
  | c :: rest => c == ']' || (isPayloadChar c && closesPayload rest)

/-- A placeholder whose key was begun is closed: behind the key, or behind a payload. -/
def closesKey : Text → Bool
  | [] => false
  | c :: rest => c == ']' || (c == ':' && closesPayload rest) || (isKeyChar c && closesKey rest)

/-- A placeholder stands behind a bracket: a key begins and it is closed. -/
def opensPlaceholder : Text → Bool
  | [] => false
  | c :: rest => isKeyChar c && closesKey rest

theorem closesPayload_append {payload : Text} (h : ∀ c ∈ payload, isPayloadChar c = true)
    (rest : Text) : closesPayload (payload ++ rest) = closesPayload rest := by
  induction payload with
  | nil => rfl
  | cons c payload ih =>
    obtain ⟨hc, hpayload⟩ := List.forall_mem_cons.1 h
    have hne : c ≠ ']' := by rintro rfl; exact absurd hc (by decide)
    simp [closesPayload, hc, hne, ih hpayload]

theorem closesKey_append {key : Text} (h : ∀ c ∈ key, isKeyChar c = true) (rest : Text) :
    closesKey (key ++ rest) = closesKey rest := by
  induction key with
  | nil => rfl
  | cons c key ih =>
    obtain ⟨hc, hkey⟩ := List.forall_mem_cons.1 h
    have h1 : c ≠ ']' := isKeyChar_ne hc (by decide)
    have h2 : c ≠ ':' := isKeyChar_ne hc (by decide)
    simp [closesKey, hc, h1, h2, ih hkey]

theorem closesPayload_dropWhile (text : Text) :
    closesPayload (text.dropWhile isPayloadChar) = closesPayload text := by
  have hpayload : ∀ c ∈ text.takeWhile isPayloadChar, isPayloadChar c = true :=
    fun c hc => List.mem_takeWhile_imp hc
  have h := closesPayload_append hpayload (text.dropWhile isPayloadChar)
  rw [List.takeWhile_append_dropWhile] at h
  exact h.symm

theorem closesKey_dropWhile (text : Text) :
    closesKey (text.dropWhile isKeyChar) = closesKey text := by
  have hkey : ∀ c ∈ text.takeWhile isKeyChar, isKeyChar c = true :=
    fun c hc => List.mem_takeWhile_imp hc
  have h := closesKey_append hkey (text.dropWhile isKeyChar)
  rw [List.takeWhile_append_dropWhile] at h
  exact h.symm

theorem closesPayload_eq_false {text : Text}
    (h : ∀ after, text.dropWhile isPayloadChar ≠ ']' :: after) : closesPayload text = false := by
  rw [← closesPayload_dropWhile]
  cases hdrop : text.dropWhile isPayloadChar with
  | nil => rfl
  | cons c rest =>
    have hstop : isPayloadChar c = false := by
      have := List.head?_dropWhile_not isPayloadChar text
      simpa [hdrop] using this
    have hne : c ≠ ']' := fun hc => h rest (by rw [hdrop, hc])
    simp [closesPayload, hstop, hne]

theorem closesKey_eq_false {text : Text} (hb : ∀ after, text.dropWhile isKeyChar ≠ ']' :: after)
    (hp : ∀ body, text.dropWhile isKeyChar = ':' :: body → closesPayload body = false) :
    closesKey text = false := by
  rw [← closesKey_dropWhile]
  cases hdrop : text.dropWhile isKeyChar with
  | nil => rfl
  | cons c rest =>
    have hstop : isKeyChar c = false := by
      have := List.head?_dropWhile_not isKeyChar text
      simpa [hdrop] using this
    have hne : c ≠ ']' := fun hc => hb rest (by rw [hdrop, hc])
    by_cases hc : c = ':'
    · subst hc
      simp [closesKey, hstop, hp rest hdrop]
    · simp [closesKey, hstop, hne, hc]

theorem isSome_afterBracket? (text : Text) :
    (afterBracket? text).isSome = opensPlaceholder text := by
  cases text with
  | nil => rfl
  | cons c rest =>
    by_cases hc : isKeyChar c = true
    · unfold afterBracket?
      rw [List.takeWhile_cons_of_pos hc, List.dropWhile_cons_of_pos hc]
      simp only [List.isEmpty_cons, Bool.false_eq_true, ↓reduceIte, opensPlaceholder, hc,
        Bool.true_and]
      split
      · rename_i after hafter
        rw [← closesKey_dropWhile, hafter]
        rfl
      · rename_i body hbody
        rw [← closesKey_dropWhile, hbody]
        split
        · rename_i after hafter
          have := closesPayload_dropWhile body
          rw [hafter] at this
          simp [closesKey, ← this, closesPayload]
        · rename_i hno
          simp [closesKey, isKeyChar, closesPayload_eq_false fun after => hno after]
      · rename_i hb hp
        exact (closesKey_eq_false (fun after h => hb after h) (fun body h => (hp body h).elim)).symm
    · simp [opensPlaceholder, afterBracket?, hc]

theorem afterBracket?_eq_none_iff (text : Text) :
    afterBracket? text = none ↔ opensPlaceholder text = false := by
  rw [← isSome_afterBracket?, Option.isSome_eq_false_iff, Option.isNone_iff_eq_none]

end EventText
