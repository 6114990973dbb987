import EventText.Proofs.Markup.Nesting
import EventText.Proofs.Resolver.FixedPoint

/-! Bold nests in resolved texts. The passes that put people in leave the placeholders of the description,
which hold no tags (`Untagged`), so the choice among items moves none. The field pass may put anything in
bold, tags of other passes included, but what it puts in takes the same level to the same level as the
placeholder did. And marks stand in front of labels, never in a tag. So every pass leads from no bold to no
bold (`nested_resolve`). -/

namespace EventText

open Template

section Splicing

/-- A placeholder in a text takes one level to another by itself. -/
theorem BoldDepth.exists_of_written {d e : Nat} {front rest : Text} {p : Placeholder}
    (h : BoldDepth d (front ++ (p.written ++ rest)) e) :
    ∃ m n, BoldDepth d front m ∧ BoldDepth m p.written n ∧ BoldDepth n rest e := by
  obtain ⟨inner, hinner⟩ := p.exists_written_eq
  have hopen : '[' ∉ closeTag := by decide
  have hclose : ']' ∉ closeTag := by decide
  rw [hinner, List.cons_append] at h
  obtain ⟨m, hfront, hbehind⟩ := exists_of_append_cons hopen h
  rw [List.append_assoc, ← List.cons_append] at hbehind
  obtain ⟨n, hwritten, hrest⟩ := exists_of_append_cons hclose hbehind
  have hbracket : BoldDepth n [']'] n := .letter (by decide) .nil
  refine ⟨m, n, hfront, ?_, hrest.of_cons (by decide)⟩
  rw [hinner]
  exact hwritten.append hbracket

/-- Where each answer does to the level what its placeholder did, the whole does too. -/
theorem Template.Spliced.boldDepth {allowed : Placeholder → Option Text → Prop} {ps qs : List Piece}
    (h : Spliced allowed ps qs)
    (hput : ∀ p ∈ placeholders ps, ∀ text, allowed p (some text) →
      ∀ d e, BoldDepth d p.written e → BoldDepth d text e) {front : Text} {d e : Nat}
    (hps : BoldDepth d (front ++ written ps) e) : BoldDepth d (front ++ written qs) e := by
  -- what was passed by is kept in front, since a tag goes over several letters
  induction h generalizing front d with
  | nil => exact hps
  | letter _ ih =>
    rw [written_letter, List.append_cons] at hps ⊢
    exact ih hput hps
  | keep _ _ ih =>
    rw [written_token, ← List.append_assoc] at hps ⊢
    exact ih (fun p hp => hput p (List.mem_cons_of_mem _ hp)) hps
  | @put p text ps qs hp _ ih =>
    rw [written_token] at hps
    obtain ⟨m, n, hfront, htoken, hrest⟩ := hps.exists_of_written
    have hanswer : BoldDepth m text n := hput p (List.mem_cons_self ..) text hp m n htoken
    have hbehind : BoldDepth n ([] ++ written qs) e :=
      ih (fun p hp => hput p (List.mem_cons_of_mem _ hp)) hrest
    rw [written_append, written_letters]
    exact hfront.append (hanswer.append hbehind)

end Splicing

section Answers

variable {preset : Preset} {p : Placeholder} {answer : Text}

/-- A placeholder without tags may get anything that ends at the level where it begins. -/
theorem boldDepth_of_untagged {d e : Nat} (hwritten : '<' ∉ p.written)
    (hanswer : ∀ d, BoldDepth d answer d) (h : BoldDepth d p.written e) : BoldDepth d answer e := by
  obtain rfl := h.eq_of_plain hwritten
  exact hanswer d

theorem boldDepth_bold_append {text after : Text} (htext : '<' ∉ text) (hafter : '<' ∉ after)
    (d : Nat) : BoldDepth d (bold text ++ after) d :=
  (boldDepth_bold (.of_plain htext)).append (.of_plain hafter)

theorem boldDepth_announce {items : List Text} (h : ∀ item ∈ items, '<' ∉ item)
    (i : Fin items.length) (d : Nat) : BoldDepth d (announce items i) d := by
  have hothers : ∀ item ∈ items.eraseIdx i, '<' ∉ item :=
    fun item hitem => h item (List.mem_of_mem_eraseIdx hitem)
  rw [announce_eq]
  apply boldDepth_bold_append (h _ (List.get_mem _ _))
  exact not_mem_consolationLine (by decide) hothers

/-- The value of a field does to the level what its placeholder did. -/
theorem boldDepth_of_answerField {d e : Nat} (hp : p.WellFormed)
    (hanswer : Resolver.answerField preset p = some answer) (h : BoldDepth d p.written e) :
    BoldDepth d answer e := by
  obtain ⟨payload, hpayload, -, rfl⟩ := Resolver.exists_of_answerField hanswer
  have hkey : '<' ∉ '[' :: p.key ++ [':'] := by
    have hchars := ((isValidKey_iff p.key).1 hp.key_valid).2
    have hnot : '<' ∉ p.key := fun hmem => absurd (hchars _ hmem) (by decide)
    simp [hnot]
  have hwritten : p.written = '[' :: p.key ++ [':'] ++ (payload ++ [']']) := by
    simp [Placeholder.written, hpayload]
  rw [hwritten] at h
  have hbehind := BoldDepth.of_plain_append hkey h
  have hvalue : BoldDepth d payload e := by
    apply BoldDepth.of_append_free _ hbehind
    intro c hc
    rw [List.mem_singleton.1 hc]
    decide
  exact boldDepth_bold hvalue.trim

end Answers

/-- Marks stand in front of labels, which begin with a letter that no tag has. -/
theorem Marked.boldDepth {a b front : Text} {d e : Nat} (h : Marked a b)
    (ha : BoldDepth d (front ++ a) e) : BoldDepth d (front ++ b) e := by
  induction h generalizing front d with
  | nil => exact ha
  | @cons c mark a b hmark _ ih =>
    rcases hmark with rfl | ⟨hmark, hstart⟩
    · rw [List.append_cons] at ha
      rw [List.nil_append, List.append_cons]
      exact ih ha
    · have hletter : c ∉ closeTag := by
        rw [head_of_foodStart hstart]
        decide
      have hplain : '<' ∉ mark := fun hmem => (ne_of_mem_mark hmark hmem).2 rfl
      obtain ⟨n, hfront, hbehind⟩ := BoldDepth.exists_of_append_cons hletter ha
      have hlabel : BoldDepth n ([c] ++ b) e := ih hbehind
      exact hfront.append ((BoldDepth.of_plain hplain).append hlabel)

theorem Template.written_subset {p : Placeholder} {ps : List Piece} (hp : p ∈ placeholders ps) :
    p.written ⊆ written ps := by
  obtain ⟨piece, hpiece, htoken⟩ := List.mem_filterMap.1 hp
  cases piece with
  | letter c => cases htoken
  | token q =>
    obtain rfl := Option.some.inj htoken
    intro c hc
    exact List.mem_flatMap.2 ⟨_, hpiece, hc⟩

namespace Resolver

/-- No opening bracket and no tag in what is put in for people. -/
structure Unmarked (r : Resolver) (preset : Preset) : Prop where
  names : ∀ name ∈ r.participants.names, '[' ∉ name ∧ '<' ∉ name
  suffixes : ∀ entry ∈ preset.personSuffixes, '[' ∉ entry.2 ∧ '<' ∉ entry.2

/-- The text leads from no bold to no bold, and no tag stands in a placeholder. -/
structure TagsOutside (r : Resolver) (text : Text) : Prop where
  level : BoldDepth 0 text 0
  untagged : ∀ p ∈ placeholders (r.grammar.pieces text), '<' ∉ p.written

section Passes

variable {r : Resolver} {preset : Preset} {text after : Text}

theorem level_pieces (h : BoldDepth 0 text 0) :
    BoldDepth 0 ([] ++ written (r.grammar.pieces text)) 0 := by
  rw [List.nil_append, r.grammar.written_pieces]
  exact h

theorem tagsOutside_of_plain (h : '<' ∉ text) : r.TagsOutside text := by
  refine ⟨.of_plain h, ?_⟩
  intro p hp hmem
  apply h
  rw [← r.grammar.written_pieces text]
  exact written_subset hp hmem

/-- A pass that puts in nothing but whole bold parts, and opens no placeholder. -/
theorem TagsOutside.rewrite {f : Placeholder → Option Text} (h : r.TagsOutside text)
    (hpieces : r.grammar.pieces (Template.rewrite f (r.grammar.pieces text)) =
      Template.splice f (r.grammar.pieces text))
    (hanswer : ∀ p answer, f p = some answer → ∀ d, BoldDepth d answer d) :
    r.TagsOutside (Template.rewrite f (r.grammar.pieces text)) := by
  constructor
  · rw [← written_splice]
    apply (spliced_splice f _).boldDepth _ (level_pieces h.level)
    intro p hp answer hput d e
    exact boldDepth_of_untagged (h.untagged p hp) (hanswer p answer hput.symm)
  · rw [hpieces, placeholders_splice]
    intro p hp
    exact h.untagged p (List.mem_filter.1 hp).1

theorem tagsOutside_linkedPass (h : r.Unmarked preset) (htext : r.TagsOutside text)
    (hafter : (r.linkedPass text).Yields after) : r.TagsOutside after := by
  rw [linkedPass_eq, Draw.yields_map] at hafter
  obtain ⟨pair, hpair, rfl⟩ := hafter
  obtain ⟨hfirst, hsecond⟩ := mem_names_of_drawPair hpair
  apply htext.rewrite (pieces_linked (h.names _ hfirst).1 (h.names _ hsecond).1 r.grammar text)
  intro p answer hanswer d
  rcases eq_of_linkedAnswer hanswer with rfl | rfl
  · exact boldDepth_bold (.of_plain (h.names _ hfirst).2)
  · exact boldDepth_bold (.of_plain (h.names _ hsecond).2)

theorem tagsOutside_personPass (h : r.Unmarked preset) (htext : r.TagsOutside text)
    (hafter : (r.personPass preset text).Yields after) : r.TagsOutside after := by
  rw [personPass_eq, Draw.yields_map] at hafter
  obtain ⟨persons, hpersons, rfl⟩ := hafter
  have hnames : ∀ entry ∈ persons, '[' ∉ entry.2 ∧ '<' ∉ entry.2 :=
    fun entry hentry => h.names _ (mem_names_of_drawPersons hpersons entry hentry)
  apply htext.rewrite (pieces_person (fun entry hentry => (hnames entry hentry).1)
    (fun entry hentry => (h.suffixes entry hentry).1) r.grammar text)
  intro p answer hanswer
  rw [eq_of_personAnswer hanswer]
  apply boldDepth_bold_append
  · exact not_mem_nameFor (fun entry hentry => (hnames entry hentry).2) p.key
  · exact not_mem_suffix? (fun entry hentry => (h.suffixes entry hentry).2) p.key

/-- No tags are among the items that a choice puts in another order. -/
theorem boldDepth_choicePass (htext : r.TagsOutside text)
    (hafter : (r.choicePass preset text).Yields after) : BoldDepth 0 after 0 := by
  rw [choicePass, rewriteM_eq_map_spliceM, Draw.yields_map] at hafter
  obtain ⟨qs, hqs, rfl⟩ := hafter
  apply (spliced_of_yields hqs).boldDepth _ (level_pieces htext.level)
  intro p hp answer hanswer d e
  obtain ⟨payload, hpayload, -, i, rfl⟩ := exists_of_answerChoice hanswer
  apply boldDepth_of_untagged (htext.untagged p hp)
  apply boldDepth_announce
  intro item hitem hmem
  apply htext.untagged p hp
  have hmem' : '<' ∈ payload := subset_of_mem_splitItems hitem hmem
  simp [Placeholder.written, hpayload, hmem']

/-- The field pass may put tags in bold that other passes have put in. -/
theorem boldDepth_fieldPass (htext : BoldDepth 0 text 0) :
    BoldDepth 0 (r.fieldPass preset text) 0 := by
  rw [fieldPass, ← written_splice]
  apply (spliced_splice _ _).boldDepth _ (level_pieces htext)
  intro p hp answer hanswer d e
  exact boldDepth_of_answerField ((r.grammar.cut_pieces text).wellFormed p hp) hanswer.symm

theorem boldDepth_substitute (h : r.Unmarked preset) (htext : '<' ∉ text)
    (hafter : (r.substitute preset text).Yields after) : BoldDepth 0 after 0 := by
  obtain ⟨text₁, h₁, hafter⟩ := Draw.yields_bind.1 hafter
  obtain ⟨text₂, h₂, hafter⟩ := Draw.yields_bind.1 hafter
  obtain ⟨text₃, h₃, rfl⟩ := Draw.yields_bind.1 hafter
  have hlinked := tagsOutside_linkedPass h (tagsOutside_of_plain htext) h₁
  have hperson := tagsOutside_personPass h hlinked h₂
  exact boldDepth_fieldPass (boldDepth_choicePass hperson h₃)

theorem boldDepth_annotated
    (hannotate : preset.annotate = none ∨ preset.annotate = some annotateFood)
    (h : BoldDepth 0 text 0) : BoldDepth 0 (annotated preset text) 0 := by
  rcases hannotate with hnone | hfood
  · rw [annotated, hnone]
    exact h
  · have hfront : BoldDepth 0 ([] ++ text) 0 := h
    rw [annotated, hfood]
    exact (marked_annotateFood text).boldDepth hfront

end Passes

/-- Where neither the description nor what is put in for people has tags, and no opening bracket is put
in for people, the bold tags of the resolved text are nested: no front of it has more closing than opening
tags, and the whole has as many of both. The payloads in the description may have any brackets. -/
theorem nested_resolve (r : Resolver) (preset : Preset) (description : Text)
    (hannotate : preset.annotate = none ∨ preset.annotate = some annotateFood)
    (h : r.Unmarked preset) (hdescription : '<' ∉ description) (σ : Type) [Source σ] (source : σ) :
    ∃ text, ((r.resolve preset description).run source).value = some text ∧ Nested text ∧
      (∀ front, front <+: text →
        Text.occurrences "</b>".toList front ≤ Text.occurrences "<b>".toList front) ∧
      Text.occurrences "</b>".toList text = Text.occurrences "<b>".toList text := by
  obtain ⟨before, hbefore⟩ := (answerable_substitute r preset description).exists_value source
  have hlevel : BoldDepth 0 (annotated preset before) 0 :=
    boldDepth_annotated hannotate (boldDepth_substitute h hdescription (Draw.yields_of_run hbefore))
  refine ⟨annotated preset before, ?_, nested_iff.2 hlevel, ?_, hlevel.occurrences_eq⟩
  · rw [resolve_eq_map, Draw.value_run_map, hbefore]
    rfl
  · intro front hfront
    exact hlevel.occurrences_le hfront

/-- The value of the first `NAME` ends with the tag that closes the choice around it. -/
theorem nested_resolve_nested_keys :
    let description := "What to eat: [FOOD: taco] [FOOD: [NAME: v]] [Who] [FOOD: x, [NAME: y]]".toList
    let resolved := ("🌮 What to eat: <b>taco</b> <b><b>v</b></b> <b>C\nD]</b>] pays " ++
      "<b>x</b>\nBetter luck next time for <b>y.</b>").toList
    dinnerMarked.annotate = some annotateFood ∧ oddNames.Unmarked dinnerMarked ∧
    '<' ∉ description ∧
    ((oddNames.resolve dinnerMarked description).run (Script.mk [1, 0, 0, 0])).value = some resolved ∧
    Nested resolved ∧
    Text.occurrences "</b>".toList resolved = Text.occurrences "<b>".toList resolved := by
  intro description resolved
  have hunmarked : oddNames.Unmarked dinnerMarked := ⟨by decide, by decide⟩
  have hdescription : '<' ∉ description := by decide +kernel
  have hrun : ((oddNames.resolve dinnerMarked description).run (Script.mk [1, 0, 0, 0])).value =
      some resolved := by
    decide +kernel
  obtain ⟨text, hvalue, hnested, -, hcount⟩ := nested_resolve oddNames dinnerMarked description
    (.inr rfl) hunmarked hdescription Script (Script.mk [1, 0, 0, 0])
  obtain rfl := Option.some.inj (hrun.symm.trans hvalue)
  exact ⟨rfl, hunmarked, hdescription, hrun, hnested, hcount⟩

end Resolver

end EventText
