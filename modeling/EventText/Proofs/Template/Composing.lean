import EventText.Proofs.Bytes.Weaving
import EventText.Proofs.Resolver.Choosing

/-! Writing a placeholder and finding it again. A key and a payload between brackets are one
placeholder exactly when the key is valid and the payload stays inside its bracket and on its line; and
items written one after the other with commas between them are the items that a choice has
(`located_composed`). -/

namespace EventText

open Template

section Items

/-- The blank in front of an item is lost when the item is read. -/
theorem trim_space_cons (item : Text) : Text.trim (' ' :: item) = item.trim := by
  have hblank : isBlank ' ' = true := by decide
  rw [Text.trim, Text.trimStart, List.dropWhile_cons_of_pos hblank]
  rfl

/-- The blanks behind the commas go with the items. -/
theorem space_intercalate {items : List Text} (hne : items ≠ []) :
    ' ' :: ", ".toList.intercalate items = [','].intercalate (items.map (' ' :: ·)) := by
  induction items with
  | nil => exact absurd rfl hne
  | cons first rest ih =>
    cases rest with
    | nil => simp only [List.map_cons, List.map_nil, List.intercalate_singleton]
    | cons second rest =>
      have hrest := ih (List.cons_ne_nil _ _)
      rw [List.map_cons] at hrest
      rw [List.map_cons, List.map_cons, List.intercalate_cons_cons, List.intercalate_cons_cons,
        ← hrest]
      simp

theorem mem_of_mem_intercalate {c : Char} {between : Text} {texts : List Text}
    (h : c ∈ between.intercalate texts) : c ∈ between ∨ ∃ text ∈ texts, c ∈ text := by
  induction texts with
  | nil => cases h
  | cons first rest ih =>
    cases rest with
    | nil =>
      rw [List.intercalate_singleton] at h
      exact .inr ⟨first, List.mem_singleton_self first, h⟩
    | cons second rest =>
      rw [List.intercalate_cons_cons, List.mem_append, List.mem_append] at h
      rcases h with (hfirst | hbetween) | hrest
      · exact .inr ⟨first, List.mem_cons_self .., hfirst⟩
      · exact .inl hbetween
      · exact (ih hrest).imp_right fun ⟨text, htext, hc⟩ => ⟨text, List.mem_cons_of_mem _ htext, hc⟩

/-- A character of the written items is one of an item, or of what stands between them. -/
theorem not_mem_space_intercalate {c : Char} {items : List Text} (hbetween : c ∉ ", ".toList)
    (hitems : ∀ item ∈ items, c ∉ item) : c ∉ ' ' :: ", ".toList.intercalate items := by
  intro hmem
  rcases List.mem_cons.1 hmem with hspace | hmem
  · apply hbetween
    rw [hspace]
    decide
  · rcases mem_of_mem_intercalate hmem with hc | ⟨item, hitem, hc⟩
    · exact hbetween hc
    · exact hitems item hitem hc

/-- Items that are trimmed, not empty and without commas are read as they were written. -/
theorem splitItems_intercalate {items : List Text} (htrimmed : ∀ item ∈ items, item.trim = item)
    (hfull : ∀ item ∈ items, item ≠ []) (hcomma : ∀ item ∈ items, ',' ∉ item) :
    splitItems (' ' :: ", ".toList.intercalate items) = items := by
  by_cases hne : items = []
  · subst hne
    decide
  · have hparts : ∀ part ∈ items.map (' ' :: ·), ',' ∉ part := by
      intro part hpart
      obtain ⟨item, hitem, rfl⟩ := List.mem_map.1 hpart
      rw [List.mem_cons, not_or]
      exact ⟨by decide, hcomma item hitem⟩
    have htrim : (items.map (' ' :: ·)).map Text.trim = items := by
      rw [List.map_map]
      calc items.map (Text.trim ∘ (' ' :: ·))
          = items.map id := List.map_congr_left fun item hitem =>
            (trim_space_cons item).trans (htrimmed item hitem)
        _ = items := List.map_id items
    rw [splitItems, space_intercalate hne,
      List.splitOn_intercalate ',' hparts (by simpa using hne), htrim, List.filter_eq_self]
    intro item hitem
    simpa using hfull item hitem

end Items

section Written

theorem all_isPayloadChar_iff {payload : Text} :
    (∀ c ∈ payload, isPayloadChar c = true) ↔ ']' ∉ payload ∧ '\n' ∉ payload := by
  constructor
  · intro h
    exact ⟨fun hmem => absurd (h _ hmem) (by decide), fun hmem => absurd (h _ hmem) (by decide)⟩
  · rintro ⟨hbracket, hfeed⟩ c hc
    have h1 : c ≠ ']' := ne_of_mem_of_not_mem hc hbracket
    have h2 : c ≠ '\n' := ne_of_mem_of_not_mem hc hfeed
    simp [isPayloadChar, h1, h2]

theorem Placeholder.wellFormed_iff {key payload : Text} :
    Placeholder.WellFormed ⟨key, some payload⟩ ↔
      isValidKey key = true ∧ ']' ∉ payload ∧ '\n' ∉ payload := by
  rw [← all_isPayloadChar_iff]
  constructor
  · intro h
    exact ⟨h.key_valid, h.payload_all payload rfl⟩
  · rintro ⟨hkey, hpayload⟩
    refine ⟨hkey, ?_⟩
    intro found hfound
    obtain rfl := Option.mem_some.1 hfound
    exact hpayload

theorem Grammar.wellFormed_of_mem_located {grammar : Grammar} {text : Text} {first last : Nat}
    {p : Placeholder} (h : (first, last, p) ∈ located (grammar.pieces text)) : p.WellFormed := by
  apply (grammar.cut_pieces text).wellFormed
  rw [← placeholders_locatedFrom 0]
  exact List.mem_map.2 ⟨_, h, rfl⟩

/-- A placeholder in a text without opening brackets is found, and nothing else is. -/
theorem Grammar.located_alone (grammar : Grammar) {p : Placeholder} (hp : p.WellFormed)
    {before after : Text} (hbefore : '[' ∉ before) (hafter : '[' ∉ after) :
    located (grammar.pieces (before ++ p.written ++ after)) =
      [(before.utf8Length, before.utf8Length + p.written.utf8Length, p)] := by
  have hcut : Cut (before.map .letter ++ .token p :: (after.map .letter ++ [])) :=
    .letters hbefore (.token hp (.letters hafter .nil))
  have hwritten : written (before.map .letter ++ .token p :: (after.map .letter ++ [])) =
      before ++ p.written ++ after := by
    simp only [written_append, written_token, written_letters, List.append_nil, List.append_assoc]
  rw [← hwritten, grammar.pieces_written hcut, located, locatedFrom_append, locatedFrom_letters,
    List.append_nil, locatedFrom, locatedFrom_letters, written_letters, Nat.zero_add, List.nil_append]

/-- A placeholder that stands alone is found as it was written, if it is well formed, and never else. -/
theorem Grammar.located_written_iff (grammar : Grammar) (p : Placeholder) :
    located (grammar.pieces p.written) = [(0, p.written.utf8Length, p)] ↔ p.WellFormed := by
  constructor
  · intro hfound
    apply grammar.wellFormed_of_mem_located
    rw [hfound]
    exact List.mem_singleton_self _
  · intro hp
    have hnil : '[' ∉ ([] : Text) := List.not_mem_nil
    have halone := grammar.located_alone hp hnil hnil
    rwa [List.nil_append, List.append_nil, Text.utf8Length_nil, Nat.zero_add] at halone

theorem Placeholder.wellFormed_items {key : Text} {items : List Text} (hkey : isValidKey key = true)
    (hbracket : ∀ item ∈ items, ']' ∉ item) (hfeed : ∀ item ∈ items, '\n' ∉ item) :
    Placeholder.WellFormed ⟨key, some (' ' :: ", ".toList.intercalate items)⟩ := by
  apply Placeholder.wellFormed_iff.2
  refine ⟨hkey, ?_, ?_⟩
  · exact not_mem_space_intercalate (by decide) hbracket
  · exact not_mem_space_intercalate (by decide) hfeed

end Written

/-- A key and a payload between brackets are found as one placeholder just when the key is valid and
the payload has neither a closing bracket nor a line feed. And where items that are trimmed, not empty
and on one line, without commas and closing brackets, are written behind a valid key, in a text that
has no other opening bracket outside of them, that placeholder alone is found, and its items are those
that were written. -/
theorem located_composed (grammar : Grammar) :
    (∀ key payload : Text,
      let text : Text := "[".toList ++ key ++ ":".toList ++ payload ++ "]".toList
      located (grammar.pieces text) = [(0, text.utf8Length, ⟨key, some payload⟩)] ↔
        isValidKey key = true ∧ ']' ∉ payload ∧ '\n' ∉ payload) ∧
    ∀ (key : Text) (items : List Text) (before after : Text), isValidKey key = true →
      (∀ item ∈ items, item.trim = item ∧ item ≠ [] ∧ ',' ∉ item ∧ ']' ∉ item ∧ '\n' ∉ item) →
      '[' ∉ before → '[' ∉ after →
      let token : Text :=
        "[".toList ++ key ++ ": ".toList ++ ", ".toList.intercalate items ++ "]".toList
      ∃ payload, located (grammar.pieces (before ++ token ++ after)) =
          [(before.utf8Length, before.utf8Length + token.utf8Length, ⟨key, some payload⟩)] ∧
        splitItems payload = items := by
  refine ⟨?_, ?_⟩
  · intro key payload text
    have htext : text = Placeholder.written ⟨key, some payload⟩ := by
      simp [text, Placeholder.written]
    rw [htext, grammar.located_written_iff, Placeholder.wellFormed_iff]
  · intro key items before after hkey hitems hbefore hafter token
    have htoken : token = Placeholder.written ⟨key, some (' ' :: ", ".toList.intercalate items)⟩ := by
      simp [token, Placeholder.written]
    have hp := Placeholder.wellFormed_items hkey (fun item hitem => (hitems item hitem).2.2.2.1)
      (fun item hitem => (hitems item hitem).2.2.2.2)
    refine ⟨' ' :: ", ".toList.intercalate items, ?_, ?_⟩
    · rw [htoken]
      exact grammar.located_alone hp hbefore hafter
    · apply splitItems_intercalate
      · exact fun item hitem => (hitems item hitem).1
      · exact fun item hitem => (hitems item hitem).2.1
      · exact fun item hitem => (hitems item hitem).2.2.1

/-- Items with an opening bracket and a colon in them, behind a bracket that is closed by nothing. -/
theorem located_composed_odd_items :
    let items : List Text := ["Su[shi".toList, "to: go".toList]
    isValidKey "FOOD_1".toList = true ∧
    (∀ item ∈ items, item.trim = item ∧ item ≠ [] ∧ ',' ∉ item ∧ ']' ∉ item ∧ '\n' ∉ item) ∧
    ∃ payload, located (Grammar.pattern.pieces "🍣 eat] [FOOD_1: Su[shi, to: go], A]".toList) =
        [(10, 34, ⟨"FOOD_1".toList, some payload⟩)] ∧ splitItems payload = items := by
  intro items
  have hkey : isValidKey "FOOD_1".toList = true := by decide
  have hitems : ∀ item ∈ items,
      item.trim = item ∧ item ≠ [] ∧ ',' ∉ item ∧ ']' ∉ item ∧ '\n' ∉ item := by decide
  exact ⟨hkey, hitems, (located_composed .pattern).2 "FOOD_1".toList items "🍣 eat] ".toList
    ", A]".toList hkey hitems (by decide) (by decide)⟩

end EventText
