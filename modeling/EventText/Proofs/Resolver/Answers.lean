import EventText.Proofs.Resolver.Passes
import EventText.Proofs.Text.Trim

/-! Which answers are inert. Every answer begins with the bold tag, so it carries no placeholder on;
it opens none when the names, suffixes and payloads that go into it hold no opening bracket. What each
pass answers is said once for all that is proved of answers (`eq_of_linkedAnswer`,
`eq_of_personAnswer`, `exists_of_answerChoice`, `exists_of_answerField`). -/

namespace EventText

open Template

theorem mem_bold {c : Char} {text : Text} :
    c ∈ bold text ↔ c ∈ "<b>".toList ∨ c ∈ text ∨ c ∈ "</b>".toList := by
  simp [bold, or_assoc]

theorem bracket_mem_bold (text : Text) : '[' ∈ bold text ↔ '[' ∈ text := by
  simp [mem_bold]

theorem inert_bold_append {text after : Text} (htext : '[' ∉ text) (hafter : '[' ∉ after) :
    Inert (bold text ++ after) := by
  refine ⟨?_, '<', 'b' :: '>' :: (text ++ "</b>".toList ++ after), ?_, by decide, by decide,
    by decide⟩
  · rw [List.mem_append, bracket_mem_bold]
    exact fun h => h.elim htext hafter
  · simp [bold]

theorem inert_bold {text : Text} (h : '[' ∉ text) : Inert (bold text) := by
  simpa using inert_bold_append h List.not_mem_nil

/-- A part of a split text is a part of what is behind the first character, begins with that character,
or is the empty part in front of a separator. -/
theorem cases_of_mem_splitOn_cons {c sep : Char} {rest part : Text}
    (h : part ∈ (c :: rest).splitOn sep) :
    part = [] ∨ part ∈ rest.splitOn sep ∨ c ≠ sep ∧ ∃ first ∈ rest.splitOn sep, part = c :: first := by
  rw [List.splitOn_cons_eq_if_modifyHead] at h
  split at h
  · rcases List.mem_cons.1 h with hempty | hrest
    · exact .inl hempty
    · exact .inr (.inl hrest)
  · rename_i hne
    obtain ⟨first, others, hsplit⟩ := List.exists_cons_of_ne_nil (List.splitOn_ne_nil sep rest)
    rw [hsplit] at h ⊢
    rw [List.modifyHead_cons] at h
    rcases List.mem_cons.1 h with hfirst | hother
    · exact .inr (.inr ⟨by simpa using hne, first, List.mem_cons_self .., hfirst⟩)
    · exact .inr (.inl (List.mem_cons_of_mem _ hother))

theorem subset_of_mem_splitOn {sep : Char} {text part : Text} (h : part ∈ text.splitOn sep) :
    part ⊆ text := by
  induction text generalizing part with
  | nil =>
    rw [List.splitOn_nil, List.mem_singleton] at h
    rw [h]
    exact List.nil_subset _
  | cons c rest ih =>
    rcases cases_of_mem_splitOn_cons h with rfl | hrest | ⟨-, first, hfirst, rfl⟩
    · exact List.nil_subset _
    · exact List.Subset.trans (ih hrest) (List.subset_cons_self c rest)
    · exact List.cons_subset_cons c (ih hfirst)

theorem exists_mem_splitOn {c sep : Char} {text : Text} (hc : c ∈ text) (hsep : c ≠ sep) :
    ∃ part ∈ text.splitOn sep, c ∈ part := by
  induction text with
  | nil => cases hc
  | cons d rest ih =>
    rw [List.splitOn_cons_eq_if_modifyHead]
    obtain ⟨first, others, hsplit⟩ := List.exists_cons_of_ne_nil (List.splitOn_ne_nil sep rest)
    by_cases hd : d = sep
    · obtain ⟨part, hpart, hmem⟩ := ih ((List.mem_cons.1 hc).resolve_left fun h => hsep (h.trans hd))
      exact ⟨part, by simp [hd, hpart], hmem⟩
    · rw [hsplit]
      rcases List.mem_cons.1 hc with rfl | hrest
      · exact ⟨c :: first, by simp [hd], List.mem_cons_self ..⟩
      · obtain ⟨part, hpart, hmem⟩ := ih hrest
        rw [hsplit] at hpart
        rcases List.mem_cons.1 hpart with rfl | hother
        · exact ⟨d :: part, by simp [hd], List.mem_cons_of_mem _ hmem⟩
        · exact ⟨part, by simp [hd, hother], hmem⟩

theorem splitItems_ne_nil {c : Char} {payload : Text} (hc : c ∈ payload) (hcomma : c ≠ ',')
    (hblank : isBlank c = false) : splitItems payload ≠ [] := by
  obtain ⟨part, hpart, hmem⟩ := exists_mem_splitOn hc hcomma
  have htrim : c ∈ Text.trim part := Text.mem_trim hmem hblank
  have hfull : (!(Text.trim part).isEmpty) = true := by
    simpa using List.ne_nil_of_mem htrim
  exact List.ne_nil_of_mem (List.mem_filter.2 ⟨List.mem_map_of_mem hpart, hfull⟩)

theorem subset_of_mem_splitItems {payload item : Text} (h : item ∈ splitItems payload) :
    item ⊆ payload := by
  obtain ⟨h, -⟩ := List.mem_filter.1 h
  obtain ⟨part, hpart, rfl⟩ := List.mem_map.1 h
  exact List.Subset.trans (Text.trim_subset part) (subset_of_mem_splitOn hpart)

/-- A character of a sentence that names items is one of an item, or of the words between them. -/
theorem not_mem_joinWithAnd {c : Char} (hc : c ∉ ", and ".toList) {items : List Text}
    (h : ∀ item ∈ items, c ∉ item) : c ∉ joinWithAnd items := by
  have hcomma : c ∉ ", ".toList := fun hmem => hc (List.mem_append_left "and ".toList hmem)
  have hand : c ∉ " and ".toList := fun hmem => hc (List.mem_append_right ",".toList hmem)
  induction items using joinWithAnd.induct with
  | case1 => exact List.not_mem_nil
  | case2 only => exact h only (List.mem_singleton_self only)
  | case3 first last =>
    simp only [List.forall_mem_cons] at h
    simp only [joinWithAnd, List.mem_append, h, hand, or_self, not_false_iff]
  | case4 first second third rest ih =>
    rw [List.forall_mem_cons] at h
    simp only [joinWithAnd, List.mem_append, h.1, hcomma, ih h.2, or_self, not_false_iff]

def consolationLine (others : List Text) : Text :=
  if others.isEmpty then [] else '\n' :: (consolation ++ (joinWithAnd others ++ ['.']))

theorem announce_eq (items : List Text) (i : Fin items.length) :
    announce items i = bold (items.get i) ++ consolationLine (items.eraseIdx i) := by
  unfold announce consolationLine
  split
  · rename_i h
    rw [if_pos h, List.append_nil]
    rfl
  · rename_i h
    rw [if_neg h, List.append_assoc, List.append_assoc, List.cons_append]
    rfl

theorem not_mem_consolationLine {c : Char} (hc : c ∉ '\n' :: consolation ++ ", and .".toList)
    {others : List Text} (h : ∀ item ∈ others, c ∉ item) : c ∉ consolationLine others := by
  rw [List.mem_append, not_or, List.mem_cons, not_or] at hc
  obtain ⟨⟨hfeed, hwords⟩, hmarks⟩ := hc
  have hjoin : c ∉ joinWithAnd others :=
    not_mem_joinWithAnd (fun hmem => hmarks (List.mem_append_left ".".toList hmem)) h
  have hstop : c ≠ '.' := by
    rintro rfl
    exact hmarks (by decide)
  unfold consolationLine
  split
  · exact List.not_mem_nil
  · simp only [List.mem_cons, List.mem_append, hfeed, hwords, hjoin, hstop, List.not_mem_nil, or_self,
      not_false_iff]

theorem inert_announce {items : List Text} (h : ∀ item ∈ items, '[' ∉ item)
    (i : Fin items.length) : Inert (announce items i) := by
  have hothers : ∀ item ∈ items.eraseIdx i, '[' ∉ item :=
    fun item hitem => h item (List.mem_of_mem_eraseIdx hitem)
  rw [announce_eq]
  exact inert_bold_append (h _ (List.get_mem _ _)) (not_mem_consolationLine (by decide) hothers)

namespace Resolver

variable {preset : Preset} {p : Placeholder} {answer : Text}

theorem eq_of_linkedAnswer {pair : Text × Text} (h : linkedAnswer pair p = some answer) :
    answer = bold pair.1 ∨ answer = bold pair.2 := by
  unfold linkedAnswer at h
  split at h
  · obtain rfl := Option.some.inj h
    split
    · exact .inl rfl
    · exact .inr rfl
  · cases h

theorem eq_of_personAnswer {persons : List (Text × Text)}
    (h : personAnswer preset persons p = some answer) :
    answer = bold (nameFor persons p.key) ++ (preset.suffix? p.key).getD [] := by
  unfold personAnswer at h
  split at h
  · exact (Option.some.inj h).symm
  · cases h

theorem exists_of_answerChoice (h : (answerChoice preset p).Yields (some answer)) :
    ∃ payload, p.payload = some payload ∧ preset.role? p.key = some .choice ∧
      ∃ i, answer = announce (splitItems payload) i := by
  unfold answerChoice at h
  split at h
  · rename_i payload hpayload
    split at h
    · rename_i hrole
      refine ⟨payload, hpayload, by simpa using hrole, ?_⟩
      unfold resolveChoice at h
      split at h
      · cases h
      · obtain ⟨i, -, hi⟩ := Draw.yields_bind.1 h
        exact ⟨i, Option.some.inj hi⟩
    · cases h
  · cases h

theorem exists_of_answerField (h : answerField preset p = some answer) :
    ∃ payload, p.payload = some payload ∧ preset.role? p.key = some .field ∧
      answer = bold payload.trim := by
  unfold answerField at h
  split at h
  · rename_i payload hpayload
    split at h
    · rename_i hrole
      simp only [Bool.and_eq_true, beq_iff_eq] at hrole
      exact ⟨payload, hpayload, hrole.1, (Option.some.inj h).symm⟩
    · cases h
  · cases h

end Resolver

end EventText
