import EventText.Proofs.Bytes.Spans

/-! The placeholders of a text by their rules alone. A list of spans lists them when the spans stand in
order and apart, each is one of the two forms of a placeholder spelled out, and neither form begins
outside of them. A text has one such list, and it is what either grammar finds
(`located_eq_iff_listed`). -/

namespace EventText

open Template

/-- The two forms of a placeholder, spelled out: a key between brackets, or a key, a colon and a
payload that has neither a closing bracket nor a line feed. -/
inductive Spells : Text → Placeholder → Prop where
  | bare {key : Text} : key ≠ [] → (∀ c ∈ key, c.isAlphanum = true ∨ c = '_') →
      Spells ('[' :: key ++ [']']) ⟨key, none⟩
  | keyed {key payload : Text} : key ≠ [] → (∀ c ∈ key, c.isAlphanum = true ∨ c = '_') →
      (∀ c ∈ payload, c ≠ ']' ∧ c ≠ '\n') →
      Spells ('[' :: key ++ ':' :: payload ++ [']']) ⟨key, some payload⟩

/-- The spans list the placeholders of the text, whose first character stands at byte `start`. -/
structure Listed (start : Nat) (text : Text) (spans : List (Nat × Nat × Placeholder)) : Prop where
  increasing : spans.Pairwise fun a b => a.1 < b.1
  disjoint : spans.Pairwise fun a b => a.2.1 ≤ b.1 ∨ b.2.1 ≤ a.1
  /-- Each span is a form of its placeholder. -/
  spelled : ∀ first last p, (first, last, p) ∈ spans → ∃ before part after,
    text = before ++ part ++ after ∧ first = start + before.utf8Length ∧
      last = first + part.utf8Length ∧ Spells part p
  /-- Where a form begins, there is a span. -/
  covered : ∀ before part after p, text = before ++ part ++ after → Spells part p →
    ∃ span ∈ spans, span.1 ≤ start + before.utf8Length ∧ start + before.utf8Length < span.2.1

theorem spells_iff {part : Text} {p : Placeholder} :
    Spells part p ↔ p.WellFormed ∧ part = p.written := by
  have hchars : ∀ key : Text, (∀ c ∈ key, isKeyChar c = true) ↔
      ∀ c ∈ key, c.isAlphanum = true ∨ c = '_' := fun key => by simp [isKeyChar]
  have hpayload : ∀ payload : Text, (∀ c ∈ payload, isPayloadChar c = true) ↔
      ∀ c ∈ payload, c ≠ ']' ∧ c ≠ '\n' := fun payload => by simp [isPayloadChar]
  constructor
  · intro h
    cases h with
    | bare hne hkey =>
      exact ⟨⟨(isValidKey_iff _).2 ⟨hne, (hchars _).2 hkey⟩, by simp⟩, rfl⟩
    | keyed hne hkey hline =>
      refine ⟨⟨(isValidKey_iff _).2 ⟨hne, (hchars _).2 hkey⟩, ?_⟩, rfl⟩
      intro payload hmem
      obtain rfl := Option.mem_some.1 hmem
      exact (hpayload _).2 hline
  · rintro ⟨hp, rfl⟩
    obtain ⟨key, payload⟩ := p
    obtain ⟨hne, hkey⟩ := (isValidKey_iff key).1 hp.key_valid
    cases payload with
    | none => exact .bare hne ((hchars key).1 hkey)
    | some payload =>
      exact .keyed hne ((hchars key).1 hkey) ((hpayload payload).1 (hp.payload_all payload rfl))

theorem Spells.unique {part part' after after' : Text} {p p' : Placeholder} (h : Spells part p)
    (h' : Spells part' p') (htext : part ++ after = part' ++ after') :
    p = p' ∧ part = part' ∧ after = after' := by
  obtain ⟨hp, rfl⟩ := spells_iff.1 h
  obtain ⟨hp', rfl⟩ := spells_iff.1 h'
  have hread := afterBracket?_complete hp after
  rw [htext, afterBracket?_complete hp' after', Option.some.injEq, Prod.mk.injEq] at hread
  obtain ⟨rfl, rfl⟩ := hread
  exact ⟨rfl, rfl, rfl⟩

/-- Of two splittings of one text, the one with the longer front goes on from the other. -/
theorem Text.exists_append_of_le {front rest before behind : Text}
    (htext : front ++ rest = before ++ behind)
    (hle : front.utf8Length ≤ before.utf8Length) :
    ∃ more, before = front ++ more ∧ rest = more ++ behind := by
  rcases List.append_eq_append_iff.1 htext with ⟨more, hbefore, hrest⟩ | ⟨more, rfl, rfl⟩
  · exact ⟨more, hbefore, hrest⟩
  · rw [Text.utf8Length_append] at hle
    obtain rfl : more = [] := Text.utf8Length_eq_zero.1 (by omega)
    exact ⟨[], by simp, by simp⟩

namespace Listed

variable {start : Nat} {spans : List (Nat × Nat × Placeholder)}

theorem nil_iff : Listed start [] spans ↔ spans = [] := by
  have hnone : ∀ {before part after : Text} {p : Placeholder}, [] = before ++ part ++ after →
      ¬ Spells part p := by
    intro before part after p htext h
    obtain ⟨-, rfl⟩ := spells_iff.1 h
    obtain ⟨inner, hinner⟩ := p.exists_written_eq_cons
    simp [hinner] at htext
  constructor
  · intro h
    rw [List.eq_nil_iff_forall_not_mem]
    rintro ⟨first, last, p⟩ hmem
    obtain ⟨before, part, after, htext, -, -, hspells⟩ := h.spelled first last p hmem
    exact hnone htext hspells
  · rintro rfl
    refine ⟨.nil, .nil, by simp, ?_⟩
    intro before part after p htext hspells
    exact absurd hspells (hnone htext)

/-- A character where no placeholder begins can be passed over. -/
theorem letter_iff {c : Char} {rest : Text} (hc : c = '[' → opensPlaceholder rest = false) :
    Listed start (c :: rest) spans ↔ Listed (start + c.utf8Size) rest spans := by
  -- a form does not begin with this character
  have hbehind : ∀ {before part after : Text} {p : Placeholder}, Spells part p →
      c :: rest = before ++ part ++ after → ∃ more, before = c :: more ∧
        rest = more ++ part ++ after := by
    intro before part after p hspells htext
    cases before with
    | nil =>
      obtain ⟨hp, rfl⟩ := spells_iff.1 hspells
      obtain ⟨inner, hinner⟩ := p.exists_written_eq_cons
      rw [List.nil_append] at htext
      have hbracket : c = '[' := by
        rw [hinner] at htext
        exact (List.cons.inj htext).1
      rw [hbracket] at htext
      have hread := afterBracket?_eq_some_iff.2 ⟨hp, htext⟩
      rw [(afterBracket?_eq_none_iff rest).2 (hc hbracket)] at hread
      cases hread
    | cons d more =>
      obtain ⟨rfl, hrest⟩ := List.cons.inj htext
      exact ⟨more, rfl, hrest⟩
  constructor
  · intro h
    refine ⟨h.increasing, h.disjoint, ?_, ?_⟩
    · intro first last p hmem
      obtain ⟨before, part, after, htext, hfirst, hlast, hspells⟩ := h.spelled first last p hmem
      obtain ⟨more, rfl, hrest⟩ := hbehind hspells htext
      refine ⟨more, part, after, hrest, ?_, hlast, hspells⟩
      rw [hfirst, Text.utf8Length_cons, Nat.add_assoc]
    · intro before part after p hrest hspells
      have hcover := h.covered (c :: before) part after p (by simp [hrest]) hspells
      rwa [Text.utf8Length_cons, ← Nat.add_assoc] at hcover
  · intro h
    refine ⟨h.increasing, h.disjoint, ?_, ?_⟩
    · intro first last p hmem
      obtain ⟨before, part, after, hrest, hfirst, hlast, hspells⟩ := h.spelled first last p hmem
      refine ⟨c :: before, part, after, by simp [hrest], ?_, hlast, hspells⟩
      rw [hfirst, Text.utf8Length_cons, Nat.add_assoc]
    · intro before part after p htext hspells
      obtain ⟨more, rfl, hrest⟩ := hbehind hspells htext
      have hcover := h.covered more part after p hrest hspells
      rwa [Nat.add_assoc, ← Text.utf8Length_cons] at hcover

theorem le_first {text : Text} (h : Listed start text spans) {span : Nat × Nat × Placeholder}
    (hmem : span ∈ spans) : start ≤ span.1 := by
  obtain ⟨before, -, -, -, hfirst, -, -⟩ := h.spelled span.1 span.2.1 span.2.2 hmem
  omega

section Front

variable {p : Placeholder} {rest : Text}

/-- A placeholder at the front of the text is listed first. -/
theorem exists_tail (hp : p.WellFormed) (h : Listed start (p.written ++ rest) spans) :
    ∃ tail, spans = (start, start + p.written.utf8Length, p) :: tail := by
  have hspells : Spells p.written p := spells_iff.2 ⟨hp, rfl⟩
  have hfront : (start, start + p.written.utf8Length, p) ∈ spans := by
    obtain ⟨⟨first, last, q⟩, hmem, hle, -⟩ := h.covered [] p.written rest p rfl hspells
    obtain ⟨before, part, after, htext, hfirst, hlast, hq⟩ := h.spelled first last q hmem
    rw [Text.utf8Length_nil] at hle
    obtain rfl : before = [] := Text.utf8Length_eq_zero.1 (by omega)
    rw [List.nil_append] at htext
    obtain ⟨rfl, rfl, rfl⟩ := hspells.unique hq htext
    obtain rfl : first = start := hfirst
    rwa [← hlast]
  cases spans with
  | nil => cases hfront
  | cons head tail =>
    rcases List.mem_cons.1 hfront with rfl | htail
    · exact ⟨tail, rfl⟩
    · -- the spans behind the head begin behind it, and the head does not begin before the front
      have hlt : head.1 < start := (List.pairwise_cons.1 h.increasing).1 _ htail
      have hle := h.le_first (List.mem_cons_self ..)
      omega

theorem of_cons {tail : List (Nat × Nat × Placeholder)}
    (h : Listed start (p.written ++ rest) ((start, start + p.written.utf8Length, p) :: tail)) :
    Listed (start + p.written.utf8Length) rest tail := by
  obtain ⟨hfirsts, hincreasing⟩ := List.pairwise_cons.1 h.increasing
  obtain ⟨haparts, hdisjoint⟩ := List.pairwise_cons.1 h.disjoint
  refine ⟨hincreasing, hdisjoint, ?_, ?_⟩
  · intro first last q hmem
    obtain ⟨before, part, after, htext, hfirst, hlast, hq⟩ :=
      h.spelled first last q (List.mem_cons_of_mem _ hmem)
    have hlt : start < first := hfirsts _ hmem
    have hapart : start + p.written.utf8Length ≤ first ∨ last ≤ start := haparts _ hmem
    rw [List.append_assoc] at htext
    obtain ⟨more, rfl, hrest⟩ := Text.exists_append_of_le htext (by omega)
    rw [Text.utf8Length_append] at hfirst
    exact ⟨more, part, after, by rw [hrest, List.append_assoc], by omega, hlast, hq⟩
  · intro before part after q hrest hq
    obtain ⟨span, hmem, hle, hlt⟩ :=
      h.covered (p.written ++ before) part after q (by simp [hrest]) hq
    rw [Text.utf8Length_append] at hle hlt
    rcases List.mem_cons.1 hmem with rfl | htail
    · dsimp only at hlt
      omega
    · exact ⟨span, htail, by omega, by omega⟩

theorem cons (hp : p.WellFormed) {tail : List (Nat × Nat × Placeholder)}
    (h : Listed (start + p.written.utf8Length) rest tail) :
    Listed start (p.written ++ rest) ((start, start + p.written.utf8Length, p) :: tail) := by
  have hpos : 0 < p.written.utf8Length := by
    rw [Placeholder.utf8Length_written]
    omega
  refine ⟨List.pairwise_cons.2 ⟨fun span hmem => ?_, h.increasing⟩,
    List.pairwise_cons.2 ⟨fun span hmem => .inl (h.le_first hmem), h.disjoint⟩, ?_, ?_⟩
  · have hle := h.le_first hmem
    omega
  · intro first last q hmem
    rcases List.mem_cons.1 hmem with heq | htail
    · obtain ⟨rfl, rfl, rfl⟩ := by simpa using heq
      exact ⟨[], q.written, rest, rfl, rfl, rfl, spells_iff.2 ⟨hp, rfl⟩⟩
    · obtain ⟨before, part, after, hrest, hfirst, hlast, hq⟩ := h.spelled first last q htail
      refine ⟨p.written ++ before, part, after, by simp [hrest], ?_, hlast, hq⟩
      rw [hfirst, Text.utf8Length_append, Nat.add_assoc]
  · intro before part after q htext hq
    by_cases hinside : before.utf8Length < p.written.utf8Length
    · exact ⟨_, List.mem_cons_self .., Nat.le_add_right _ _, by simpa using hinside⟩
    · rw [List.append_assoc] at htext
      obtain ⟨more, rfl, hrest⟩ := Text.exists_append_of_le htext (by omega)
      obtain ⟨span, hmem, hle, hlt⟩ :=
        h.covered more part after q (by rw [hrest, List.append_assoc]) hq
      rw [Text.utf8Length_append]
      exact ⟨span, List.mem_cons_of_mem _ hmem, by omega, by omega⟩

/-- The placeholder at the front comes first, and the others are those behind it. -/
theorem token_iff (hp : p.WellFormed) :
    Listed start (p.written ++ rest) spans ↔
      ∃ tail, spans = (start, start + p.written.utf8Length, p) :: tail ∧
        Listed (start + p.written.utf8Length) rest tail := by
  constructor
  · intro h
    obtain ⟨tail, rfl⟩ := h.exists_tail hp
    exact ⟨tail, rfl, h.of_cons⟩
  · rintro ⟨tail, rfl, h⟩
    exact h.cons hp

end Front

/-- A cut of a text lists its placeholders, and no other list does. -/
theorem written_iff {ps : List Piece} (hcut : Cut ps) :
    Listed start (written ps) spans ↔ spans = locatedFrom start ps := by
  induction hcut generalizing start spans with
  | nil => exact nil_iff
  | letter hopen _ ih =>
    rw [written_letter, letter_iff hopen, ih]
    rfl
  | token hp _ ih =>
    rw [written_token, token_iff hp, locatedFrom]
    simp only [ih, exists_eq_right]

end Listed

/-- The spans that either grammar finds are the one list of the placeholders of the text: in order,
apart, each spelled out, and no form beginning outside of them. Walking over the bytes finds the same
list. -/
theorem located_eq_iff_listed (grammar : Grammar) (text : Text)
    (spans : List (Nat × Nat × Placeholder)) :
    (located (grammar.pieces text) = spans ↔ Listed 0 text spans) ∧
    (grammar.spans? text = some spans ↔ Listed 0 text spans) := by
  have hlisted : located (grammar.pieces text) = spans ↔ Listed 0 text spans := by
    have hwritten : Listed 0 (written (grammar.pieces text)) spans ↔
        spans = located (grammar.pieces text) := Listed.written_iff (grammar.cut_pieces text)
    rw [grammar.written_pieces] at hwritten
    exact eq_comm.trans hwritten.symm
  refine ⟨hlisted, ?_⟩
  rw [grammar.spans?_eq, Option.some_inj]
  exact hlisted

end EventText
