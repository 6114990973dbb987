import EventText.Proofs.Resolver.Walk

/-! What resolving leaves. Every pass answers the placeholders that it has a rule for and no others,
and what it puts in opens none. So the text before the field pass has those placeholders of the
description that wait for a field or for nothing (`placeholders_beforeFields`), and the resolved text
those that no rule applies to (`placeholders_substitute`). -/

namespace EventText

open Template

def Rule.isField : Rule → Bool
  | field _ => true
  | _ => false

def Rule.isChoice : Rule → Bool
  | choice _ => true
  | _ => false

/-- Neither the pair nor a declared key has anything to say about the placeholder. -/
def Preset.isIdle (preset : Preset) (p : Placeholder) : Bool :=
  !p.isLinked && (preset.rule? p).isNone

namespace Resolver

/-- As `Bracketless`, with no opening bracket in the values of fields either. -/
structure Sealed (r : Resolver) (preset : Preset) (ps : List Piece) : Prop
    extends r.Bracketless preset ps where
  values : ∀ p ∈ placeholders ps, preset.role? p.key = some .field →
    ∀ payload ∈ p.payload, '[' ∉ payload

def beforeFields (r : Resolver) (preset : Preset) (text : Text) : Draw Text := do
  let text ← r.linkedPass text
  let text ← r.personPass preset text
  r.choicePass preset text

theorem substitute_eq_map (r : Resolver) (preset : Preset) (text : Text) :
    r.substitute preset text = r.fieldPass preset <$> r.beforeFields preset text := by
  simp [substitute, beforeFields]

section Idle

variable {preset : Preset}

/-- A placeholder without a rule is answered by no later pass. -/
theorem answers_of_rule? {p : Placeholder} (h : preset.rule? p = none) :
    preset.isPerson p = false ∧ answerChoice preset p = pure none ∧
      answerField preset p = none := by
  rw [isPerson_eq, answerChoice_eq, answerField_eq, h]
  exact ⟨rfl, rfl, rfl⟩

theorem laterPasses_eq_pure {r : Resolver} {text : Text}
    (h : ∀ p ∈ placeholders (r.grammar.pieces text), preset.rule? p = none) :
    r.laterPasses preset text = pure text := by
  have hwritten := r.grammar.written_pieces text
  have hkeys : openKeys preset [] (r.grammar.pieces text) = [] := by
    have hfilter : (placeholders (r.grammar.pieces text)).filter preset.isPerson = [] :=
      List.filter_eq_nil_iff.2 fun p hp => by simp [(answers_of_rule? (h p hp)).1]
    rw [openKeys, hfilter]
    rfl
  have hperson : r.personPass preset text = pure text := by
    rw [personPass_eq, hkeys, drawPersons, map_pure]
    have hnone : ∀ p ∈ placeholders (r.grammar.pieces text), personAnswer preset [] p = none :=
      fun p hp => by simp [personAnswer, (answers_of_rule? (h p hp)).1]
    rw [rewrite_congr hnone, rewrite_none, hwritten]
  have hchoice : r.choicePass preset text = pure text := by
    rw [choicePass, rewriteM_congr fun p hp => (answers_of_rule? (h p hp)).2.1,
      rewriteM_pure fun _ => none, rewrite_none, hwritten]
  have hfield : r.fieldPass preset text = text := by
    rw [fieldPass, rewrite_congr fun p hp => (answers_of_rule? (h p hp)).2.2, rewrite_none, hwritten]
  rw [laterPasses, hperson, pure_bind, hchoice, pure_bind, hfield]

/-- A text that has nothing for the passes goes through them unchanged, and nothing is drawn. -/
theorem substitute_eq_pure {r : Resolver} {text : Text}
    (h : ∀ p ∈ placeholders (r.grammar.pieces text), preset.isIdle p = true) :
    r.substitute preset text = pure text := by
  have hidle : ∀ p ∈ placeholders (r.grammar.pieces text),
      p.isLinked = false ∧ preset.rule? p = none := by
    intro p hp
    simpa [Preset.isIdle] using h p hp
  have hpair : r.drawPair (r.grammar.pieces text) =
      pure (r.participants.first, r.participants.second) := by
    have hany : ¬ (placeholders (r.grammar.pieces text)).any Placeholder.isLinked = true := by
      rw [List.any_eq_true]
      rintro ⟨p, hp, hlinked⟩
      rw [(hidle p hp).1] at hlinked
      cases hlinked
    rw [drawPair, if_neg hany]
  have hnone : ∀ p ∈ placeholders (r.grammar.pieces text),
      linkedAnswer (r.participants.first, r.participants.second) p = none :=
    fun p hp => by simp [linkedAnswer, (hidle p hp).1]
  rw [substitute_eq_bind, linkedPass_eq, hpair, map_pure, pure_bind, rewrite_congr hnone,
    rewrite_none, r.grammar.written_pieces]
  exact laterPasses_eq_pure fun p hp => (hidle p hp).2

end Idle

section Choices

variable {preset : Preset} {p : Placeholder}

theorem notChoice_of_yields_none (h : (answerChoice preset p).Yields none) :
    ((preset.rule? p).all fun rule => !rule.isChoice) = true := by
  rw [answerChoice_eq] at h
  cases hrule : preset.rule? p with
  | none => rfl
  | some rule =>
    rw [hrule] at h
    cases rule with
    | person => rfl
    | field value => rfl
    | choice payload => simp [resolveChoice, items_of_rule? hrule] at h

theorem choice_of_yields_some {text : Text} (h : (answerChoice preset p).Yields (some text)) :
    ((preset.rule? p).all fun rule => !rule.isChoice) = false := by
  rw [answerChoice_eq] at h
  cases hrule : preset.rule? p with
  | none =>
    rw [hrule] at h
    cases h
  | some rule =>
    rw [hrule] at h
    cases rule with
    | person => cases h
    | field value => cases h
    | choice payload => rfl

end Choices

section Passes

variable {r : Resolver} {preset : Preset} {text after : Text}

theorem placeholders_linkedPass (h : r.Bracketless preset (r.grammar.pieces text))
    (hafter : (r.linkedPass text).Yields after) :
    placeholders (r.grammar.pieces after) =
      (placeholders (r.grammar.pieces text)).filter fun p => !p.isLinked := by
  rw [linkedPass_eq, Draw.yields_map] at hafter
  obtain ⟨pair, hpair, rfl⟩ := hafter
  obtain ⟨hfirst, hsecond⟩ := mem_names_of_drawPair hpair
  rw [pieces_linked (h.names _ hfirst) (h.names _ hsecond), placeholders_splice]
  congr 1
  funext p
  cases hp : p.isLinked <;> simp [linkedAnswer, hp]

theorem placeholders_personPass (h : r.Bracketless preset (r.grammar.pieces text))
    (hafter : (r.personPass preset text).Yields after) :
    placeholders (r.grammar.pieces after) =
      (placeholders (r.grammar.pieces text)).filter fun p => !preset.isPerson p := by
  rw [personPass_eq, Draw.yields_map] at hafter
  obtain ⟨persons, hpersons, rfl⟩ := hafter
  have hnames : ∀ entry ∈ persons, '[' ∉ entry.2 :=
    fun entry hentry => h.names _ (mem_names_of_drawPersons hpersons entry hentry)
  rw [pieces_person hnames h.suffixes, placeholders_splice]
  congr 1
  funext p
  cases hp : preset.isPerson p <;> simp [personAnswer, hp]

theorem placeholders_choicePass (h : r.Bracketless preset (r.grammar.pieces text))
    (hafter : (r.choicePass preset text).Yields after) :
    placeholders (r.grammar.pieces after) =
      (placeholders (r.grammar.pieces text)).filter fun p =>
        (preset.rule? p).all fun rule => !rule.isChoice := by
  rw [choicePass, rewriteM_eq_map_spliceM, Draw.yields_map] at hafter
  obtain ⟨qs, hqs, rfl⟩ := hafter
  have hspliced := spliced_of_yields hqs
  have hcut := hspliced.cut (r.grammar.cut_pieces text) fun p hp _ => inert_of_answerChoice h hp
  rw [r.grammar.pieces_written hcut]
  exact hspliced.placeholders_eq_filter (fun _ => notChoice_of_yields_none)
    fun _ _ => choice_of_yields_some

/-- Before the field pass, the placeholders are left that wait for a field or for nothing. -/
theorem placeholders_beforeFields (h : r.Bracketless preset (r.grammar.pieces text))
    (hafter : (r.beforeFields preset text).Yields after) :
    placeholders (r.grammar.pieces after) =
      (placeholders (r.grammar.pieces text)).filter fun p =>
        !p.isLinked && (preset.rule? p).all Rule.isField := by
  obtain ⟨text₁, h₁, hafter⟩ := Draw.yields_bind.1 hafter
  obtain ⟨text₂, h₂, h₃⟩ := Draw.yields_bind.1 hafter
  have hlinked := placeholders_linkedPass h h₁
  have hfirst : r.Bracketless preset (r.grammar.pieces text₁) :=
    h.of_placeholders (by rw [hlinked]; exact List.filter_sublist.subset)
  have hperson := placeholders_personPass hfirst h₂
  have hsecond : r.Bracketless preset (r.grammar.pieces text₂) :=
    hfirst.of_placeholders (by rw [hperson]; exact List.filter_sublist.subset)
  rw [placeholders_choicePass hsecond h₃, hperson, hlinked, List.filter_filter, List.filter_filter]
  congr 1
  funext p
  rw [isPerson_eq]
  cases preset.rule? p with
  | none => simp
  | some rule => cases rule <;> simp [Rule.isField, Rule.isChoice]

theorem inert_of_answerField {ps : List Piece} (h : r.Sealed preset ps) {p : Placeholder}
    (hp : p ∈ placeholders ps) {answer : Text} (hanswer : answerField preset p = some answer) :
    Inert answer := by
  obtain ⟨payload, hpayload, hrole, rfl⟩ := exists_of_answerField hanswer
  have hbracket : '[' ∉ payload := h.values p hp hrole payload hpayload
  exact inert_bold fun hmem => hbracket (Text.trim_subset payload hmem)

/-- After all passes, the placeholders are left that no rule applies to. -/
theorem placeholders_substitute (h : r.Sealed preset (r.grammar.pieces text))
    (hafter : (r.substitute preset text).Yields after) :
    placeholders (r.grammar.pieces after) =
      (placeholders (r.grammar.pieces text)).filter preset.isIdle := by
  rw [substitute_eq_map, Draw.yields_map] at hafter
  obtain ⟨before, hbefore, rfl⟩ := hafter
  have hleft := placeholders_beforeFields h.toBracketless hbefore
  have hinert : ∀ p ∈ placeholders (r.grammar.pieces before), ∀ answer,
      answerField preset p = some answer → Inert answer := by
    intro p hp answer hanswer
    rw [hleft] at hp
    exact inert_of_answerField h (List.mem_filter.1 hp).1 hanswer
  rw [fieldPass, pieces_rewrite r.grammar (r.grammar.cut_pieces before) hinert, placeholders_splice,
    hleft, List.filter_filter]
  congr 1
  funext p
  rw [answerField_eq, Preset.isIdle]
  cases preset.rule? p with
  | none => simp
  | some rule => cases rule <;> simp [Rule.isField]

end Passes

/-- Where no opening bracket is put in, the placeholders left in the resolved text are those of the
description that are neither a bare `A` or `B` nor one that its key has a rule for: unchanged, and in
the same order. -/
theorem unresolved_substitute (r : Resolver) (preset : Preset) (description : Text)
    (h : r.Sealed preset (r.grammar.pieces description)) (σ : Type) [Source σ] (source : σ) :
    ∃ text, ((r.substitute preset description).run source).value = some text ∧
      r.unresolved text =
        ((placeholders (r.grammar.pieces description)).filter preset.isIdle).map
          Placeholder.written := by
  obtain ⟨text, hvalue⟩ := (answerable_substitute r preset description).exists_value source
  refine ⟨text, hvalue, ?_⟩
  rw [unresolved, Grammar.unresolved, placeholders_substitute h (Draw.yields_of_run hvalue)]

theorem unresolved_substitute_odd_names :
    let text := "[[a][FOOD: , x,y][b:[Who] [who: q] [NAME: ] [food: ,] [name: Z][Who][x]".toList
    oddNames.Sealed dinnerOut (oddNames.grammar.pieces text) ∧
    ∃ after, ((oddNames.substitute dinnerOut text).run (Script.mk [1, 0, 1])).value = some after ∧
      oddNames.unresolved after =
        ["[b:[Who]".toList, "[who: q]".toList, "[NAME: ]".toList, "[food: ,]".toList,
          "[x]".toList] := by
  intro text
  have hpieces : oddNames.grammar.pieces text =
      .letter '[' :: .token ⟨"a".toList, none⟩ :: .token ⟨"FOOD".toList, some " , x,y".toList⟩ ::
        .token ⟨"b".toList, some "[Who".toList⟩ :: .letter ' ' ::
        .token ⟨"who".toList, some " q".toList⟩ :: .letter ' ' ::
        .token ⟨"NAME".toList, some " ".toList⟩ :: .letter ' ' ::
        .token ⟨"food".toList, some " ,".toList⟩ :: .letter ' ' ::
        .token ⟨"name".toList, some " Z".toList⟩ :: .token ⟨"Who".toList, none⟩ ::
        [.token ⟨"x".toList, none⟩] := by
    rw [Grammar.pieces_eq_bracketPieces]
    exact bracketPieces_eq_iff.2 ⟨by decide, by decide⟩
  have hsealed : oddNames.Sealed dinnerOut (oddNames.grammar.pieces text) := by
    rw [hpieces]
    exact ⟨⟨by decide, by decide, by decide⟩, by decide⟩
  obtain ⟨after, hvalue, hleft⟩ :=
    unresolved_substitute oddNames dinnerOut text hsealed Script (Script.mk [1, 0, 1])
  refine ⟨hsealed, after, hvalue, hleft.trans ?_⟩
  rw [hpieces]
  decide

end Resolver

end EventText
