import EventText.Proofs.Food.Marking
import EventText.Proofs.Template.Splice

/-! Marks and placeholders. A mark opens no placeholder and closes none, so a marked text has the
placeholders of the text before; only a payload with a label in it may have got marks
(`placeholders_of_marked`). -/

namespace EventText

open Template

theorem inert_of_mem_foodMarks {mark : Text} (h : mark ∈ foodMarks) : Inert mark := by
  have hbracket : ∀ mark ∈ foodMarks, '[' ∉ mark := by decide
  have hhead : ∀ mark ∈ foodMarks,
      mark.head?.all (fun c => !isKeyChar c && c != ':' && c != ']') = true := by decide
  refine ⟨hbracket mark h, ?_⟩
  cases hmark : mark with
  | nil =>
    rw [hmark] at h
    exact absurd (length_of_mem_foodMarks h) (by decide)
  | cons c rest =>
    have hc := hhead mark h
    simp only [hmark, List.head?_cons, Option.all_some, Bool.and_eq_true, Bool.not_eq_true',
      bne_iff_ne] at hc
    exact ⟨c, rest, rfl, hc.1.1, hc.1.2, hc.2⟩

theorem isPayloadChar_of_mem_mark {mark : Text} (h : mark ∈ foodMarks) :
    ∀ c ∈ mark, isPayloadChar c = true := by
  have hall : ∀ mark ∈ foodMarks, mark.all isPayloadChar = true := by decide
  exact List.all_eq_true.1 (hall mark h)

theorem head_of_foodStart {c : Char} {a : Text} (h : foodStart <+: c :: a) : c = 'W' := by
  obtain ⟨rest, hrest⟩ := h
  exact (List.cons.inj hrest).1.symm

/-- A label is no key. -/
theorem closesKey_foodStart {a : Text} (h : foodStart <+: a) : closesKey a = false := by
  obtain ⟨rest, rfl⟩ := h
  rfl

theorem opensPlaceholder_foodStart {a : Text} (h : foodStart <+: a) :
    opensPlaceholder a = false := by
  obtain ⟨rest, rfl⟩ := h
  rfl

theorem opensPlaceholder_inert {text : Text} (h : Inert text) (rest : Text) :
    opensPlaceholder (text ++ rest) = false := by
  obtain ⟨c, after, rfl, hkey, -⟩ := h.head
  simp [opensPlaceholder, hkey]

namespace Marked

variable {a b : Text}

theorem closesPayload_eq (h : Marked a b) : closesPayload b = closesPayload a := by
  induction h with
  | nil => rfl
  | @cons c mark a b hmark h ih =>
    have hchars : ∀ d ∈ mark, isPayloadChar d = true := by
      rcases hmark with rfl | ⟨hmem, -⟩
      · simp
      · exact isPayloadChar_of_mem_mark hmem
    rw [closesPayload_append hchars, closesPayload, closesPayload, ih]

theorem closesKey_eq (h : Marked a b) : closesKey b = closesKey a := by
  induction h with
  | nil => rfl
  | @cons c mark a b hmark h ih =>
    rcases hmark with rfl | ⟨hmem, hstart⟩
    · rw [List.nil_append, closesKey, closesKey, ih, h.closesPayload_eq]
    · rw [closesKey_inert (inert_of_mem_foodMarks hmem), closesKey_foodStart hstart]

theorem opensPlaceholder_eq (h : Marked a b) : opensPlaceholder b = opensPlaceholder a := by
  cases h with
  | nil => rfl
  | cons hmark h =>
    rcases hmark with rfl | ⟨hmem, hstart⟩
    · rw [List.nil_append, opensPlaceholder, opensPlaceholder, h.closesKey_eq]
    · rw [opensPlaceholder_inert (inert_of_mem_foodMarks hmem), opensPlaceholder_foodStart hstart]

/-- Only in front of a label can a mark stand. -/
theorem of_cons {c : Char} (hc : c ≠ 'W') (h : Marked (c :: a) b) :
    ∃ after, b = c :: after ∧ Marked a after := by
  cases h with
  | cons hmark h =>
    rcases hmark with rfl | ⟨-, hstart⟩
    · exact ⟨_, rfl, h⟩
    · exact absurd (head_of_foodStart hstart) hc

/-- A key that is closed has no marks in it. -/
theorem of_key {key : Text} {stop : Char} (hstop : stop ≠ 'W')
    (hkey : ∀ c ∈ key, isKeyChar c = true) (hclosed : closesKey (stop :: a) = true)
    (h : Marked (key ++ stop :: a) b) : ∃ after, b = key ++ stop :: after ∧ Marked a after := by
  induction key generalizing b with
  | nil => exact of_cons hstop h
  | cons c key ih =>
    have hall : closesKey (c :: key ++ stop :: a) = true := by rw [closesKey_append hkey, hclosed]
    cases h with
    | cons hmark h =>
      rcases hmark with rfl | ⟨-, hstart⟩
      · obtain ⟨after, rfl, hafter⟩ := ih (List.forall_mem_cons.1 hkey).2 h
        exact ⟨after, rfl, hafter⟩
      · cases hall.symm.trans (closesKey_foodStart hstart)

/-- A payload gets marks only if it has a label. -/
theorem of_payload {payload : Text} (hpayload : ∀ c ∈ payload, isPayloadChar c = true)
    (h : Marked (payload ++ ']' :: a) b) :
    ∃ marked after, b = marked ++ ']' :: after ∧ (∀ c ∈ marked, isPayloadChar c = true) ∧
      (marked = payload ∨ 'W' ∈ payload) ∧ Marked a after := by
  induction payload generalizing b with
  | nil =>
    obtain ⟨after, rfl, hafter⟩ := of_cons (by decide) h
    exact ⟨[], after, rfl, by simp, .inl rfl, hafter⟩
  | cons c payload ih =>
    rw [List.forall_mem_cons] at hpayload
    cases h with
    | @cons _ mark _ _ hmark h =>
      obtain ⟨marked, after, rfl, hmarked, hsame, hafter⟩ := ih hpayload.2 h
      rcases hmark with rfl | ⟨hmem, hstart⟩
      · refine ⟨c :: marked, after, rfl, List.forall_mem_cons.2 ⟨hpayload.1, hmarked⟩, ?_, hafter⟩
        exact hsame.imp (congrArg (c :: ·)) (List.mem_cons_of_mem c)
      · refine ⟨mark ++ c :: marked, after, by simp, ?_, .inr ?_, hafter⟩
        · intro d hd
          rcases List.mem_append.1 hd with hd | hd
          · exact isPayloadChar_of_mem_mark hmem d hd
          · exact (List.forall_mem_cons.2 ⟨hpayload.1, hmarked⟩ : ∀ d ∈ c :: marked, _) d hd
        · rw [head_of_foodStart hstart]
          exact List.mem_cons_self ..

end Marked

/-- The second placeholder is the first, or it is the first with marks in a payload that has a
label. -/
def Placeholder.MarkedAs (p q : Placeholder) : Prop :=
  q = p ∨ q.key = p.key ∧ q.payload.isSome = true ∧ ∃ payload ∈ p.payload, 'W' ∈ payload

theorem Marked.afterBracket? {a b after : Text} {p : Placeholder} (h : Marked a b)
    (hp : EventText.afterBracket? a = some (p, after)) :
    ∃ q rest, EventText.afterBracket? b = some (q, rest) ∧ p.MarkedAs q ∧ Marked after rest := by
  obtain ⟨key, payload⟩ := p
  obtain ⟨hwf, htext⟩ := afterBracket?_sound hp
  obtain ⟨hne, hkey⟩ := (isValidKey_iff key).1 hwf.key_valid
  cases payload with
  | none =>
    obtain rfl : a = key ++ ']' :: after := by simpa [Placeholder.written] using htext
    obtain ⟨rest, rfl, hrest⟩ := h.of_key (by decide) hkey rfl
    refine ⟨⟨key, none⟩, rest, ?_, .inl rfl, hrest⟩
    simpa [Placeholder.written] using afterBracket?_complete hwf rest
  | some payload =>
    have hpayload := hwf.payload_all payload rfl
    obtain rfl : a = key ++ ':' :: (payload ++ ']' :: after) := by
      simpa [Placeholder.written] using htext
    have hclosed : closesKey (':' :: (payload ++ ']' :: after)) = true := by
      simp [closesKey, closesPayload_append hpayload, closesPayload]
    obtain ⟨behind, rfl, hbehind⟩ := h.of_key (by decide) hkey hclosed
    obtain ⟨marked, rest, rfl, hmarked, hsame, hrest⟩ := hbehind.of_payload hpayload
    have hwf' : Placeholder.WellFormed ⟨key, some marked⟩ :=
      ⟨hwf.key_valid, by rintro _ ⟨⟩; exact hmarked⟩
    refine ⟨⟨key, some marked⟩, rest, ?_, ?_, hrest⟩
    · simpa [Placeholder.written] using afterBracket?_complete hwf' rest
    · rcases hsame with rfl | hlabel
      · exact .inl rfl
      · exact .inr ⟨rfl, rfl, payload, rfl, hlabel⟩

theorem bracketPieces_append {text : Text} (h : '[' ∉ text) (rest : Text) :
    bracketPieces (text ++ rest) = text.map .letter ++ bracketPieces rest := by
  induction text with
  | nil => rfl
  | cons c text ih =>
    obtain ⟨hne, htext⟩ := List.ne_and_not_mem_of_not_mem_cons h
    rw [List.cons_append, bracketPieces_letter (Ne.symm hne), ih htext, List.map_cons,
      List.cons_append]

/-- The placeholders of a marked text are those of the text before, with marks in them. -/
theorem placeholders_of_marked {a b : Text} (h : Marked a b) :
    ∀ q ∈ placeholders (bracketPieces b), ∃ p ∈ placeholders (bracketPieces a), p.MarkedAs q := by
  induction a using bracketPieces.induct generalizing b with
  | case1 =>
    cases h
    simp [bracketPieces, placeholders]
  | case2 text p after hp ih =>
    obtain ⟨text', rfl, htext⟩ := h.of_cons (by decide)
    obtain ⟨q, rest, hq, hmarked, hrest⟩ := htext.afterBracket? hp
    rw [bracketPieces_some hp, bracketPieces_some hq, placeholders_token, placeholders_token]
    intro q' hq'
    rcases List.mem_cons.1 hq' with rfl | hmem
    · exact ⟨p, List.mem_cons_self .., hmarked⟩
    · obtain ⟨p', hp', hmarked'⟩ := ih hrest q' hmem
      exact ⟨p', List.mem_cons_of_mem _ hp', hmarked'⟩
  | case3 text hp ih =>
    obtain ⟨text', rfl, htext⟩ := h.of_cons (by decide)
    have hq : afterBracket? text' = none := by
      rw [afterBracket?_eq_none_iff, htext.opensPlaceholder_eq, ← afterBracket?_eq_none_iff]
      exact hp
    rw [bracketPieces_none hp, bracketPieces_none hq]
    exact ih htext
  | case4 c text hc ih =>
    cases h with
    | @cons _ mark _ text' hmark htext =>
      have hbracket : '[' ∉ mark := by
        rcases hmark with rfl | ⟨hmem, -⟩
        · exact List.not_mem_nil
        · exact (inert_of_mem_foodMarks hmem).no_bracket
      rw [bracketPieces_append hbracket, bracketPieces_letter hc, bracketPieces_letter hc,
        placeholders_letters]
      exact ih htext

end EventText
