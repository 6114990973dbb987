import EventText.Proofs.Resolver.Leftovers
import Mathlib.Data.Char
import Mathlib.Data.List.Lex

/-! The pair of participants in the resolved text. The later passes read the names that the first one
put in, so a name with a placeholder in it may be rewritten. Every answer begins with `<` and takes
the place of a `[`, which comes behind it in the order of characters: a pass makes its text smaller
or has nothing to do. So no later pass can restore what an earlier one changed, and the pair stands
as it was drawn exactly when its text has no placeholder with a rule (`resolve_linked_iff`). -/

namespace EventText

open Template

section Descent

variable {allowed : Placeholder → Option Text → Prop} {ps qs : List Piece}

theorem Template.Spliced.eq_or_lt (h : Spliced allowed ps qs)
    (htag : ∀ p text, allowed p (some text) → ∃ rest, text = '<' :: rest) :
    (written qs = written ps ∧ ∀ p ∈ placeholders ps, allowed p none) ∨ written qs < written ps := by
  induction h with
  | nil => exact .inl ⟨rfl, by simp [placeholders]⟩
  | letter _ ih =>
    rcases ih with ⟨heq, hnone⟩ | hlt
    · exact .inl ⟨by rw [written_letter, heq, written_letter], hnone⟩
    · exact .inr (List.Lex.cons hlt)
  | keep hp _ ih =>
    rcases ih with ⟨heq, hnone⟩ | hlt
    · exact .inl ⟨by rw [written_token, heq, written_token], List.forall_mem_cons.2 ⟨hp, hnone⟩⟩
    · exact .inr (List.append_left_lt hlt)
  | @put p text ps qs hp _ _ =>
    obtain ⟨rest, rfl⟩ := htag p text hp
    obtain ⟨inner, hinner⟩ := p.exists_written_eq_cons
    rw [written_append, written_letters, written_token, hinner]
    exact .inr (List.Lex.rel (by decide))

theorem Template.rewriteM_eq_or_lt {offer : Placeholder → Draw (Option Text)} {text : Text}
    (htag : ∀ p text, (offer p).Yields (some text) → ∃ rest, text = '<' :: rest)
    (h : (rewriteM offer ps).Yields text) :
    (text = written ps ∧ ∀ p ∈ placeholders ps, (offer p).Yields none) ∨ text < written ps := by
  rw [rewriteM_eq_map_spliceM, Draw.yields_map] at h
  obtain ⟨qs, hqs, rfl⟩ := h
  exact (spliced_of_yields hqs).eq_or_lt htag

theorem Template.rewrite_eq_or_lt {f : Placeholder → Option Text}
    (htag : ∀ p text, f p = some text → ∃ rest, text = '<' :: rest) (ps : List Piece) :
    (rewrite f ps = written ps ∧ ∀ p ∈ placeholders ps, f p = none) ∨ rewrite f ps < written ps := by
  rw [← written_splice]
  rcases (spliced_splice f ps).eq_or_lt fun p text h => htag p text h.symm with ⟨heq, hnone⟩ | hlt
  · exact .inl ⟨heq, fun p hp => (hnone p hp).symm⟩
  · exact .inr hlt

end Descent

namespace Resolver

theorem bold_eq_cons (text after : Text) : ∃ rest, bold text ++ after = '<' :: rest :=
  ⟨_, rfl⟩

variable {preset : Preset}

theorem tag_of_personAnswer {persons : List (Text × Text)} {p : Placeholder} {text : Text}
    (h : personAnswer preset persons p = some text) : ∃ rest, text = '<' :: rest := by
  rw [eq_of_personAnswer h]
  exact bold_eq_cons _ _

theorem tag_of_answerChoice {p : Placeholder} {text : Text}
    (h : (answerChoice preset p).Yields (some text)) : ∃ rest, text = '<' :: rest := by
  obtain ⟨payload, -, -, i, rfl⟩ := exists_of_answerChoice h
  rw [announce_eq]
  exact bold_eq_cons _ _

theorem tag_of_answerField {p : Placeholder} {text : Text} (h : answerField preset p = some text) :
    ∃ rest, text = '<' :: rest := by
  obtain ⟨payload, -, -, rfl⟩ := exists_of_answerField h
  exact ⟨_, rfl⟩

/-- A placeholder that no later pass answers has no rule. -/
theorem rule?_eq_none {persons : List (Text × Text)} {p : Placeholder}
    (hperson : personAnswer preset persons p = none) (hchoice : (answerChoice preset p).Yields none)
    (hfield : answerField preset p = none) : preset.rule? p = none := by
  rw [answerChoice_eq] at hchoice
  rw [personAnswer, isPerson_eq] at hperson
  rw [answerField_eq] at hfield
  cases hrule : preset.rule? p with
  | none => rfl
  | some rule =>
    rw [hrule] at hperson hchoice hfield
    cases rule with
    | person => simp at hperson
    | choice payload => simp [resolveChoice, items_of_rule? hrule] at hchoice
    | field value => cases hfield

theorem personPass_eq_or_lt {r : Resolver} {text after : Text}
    (h : (r.personPass preset text).Yields after) :
    (after = text ∧ ∃ persons, ∀ p ∈ placeholders (r.grammar.pieces text),
      personAnswer preset persons p = none) ∨ after < text := by
  rw [personPass_eq, Draw.yields_map] at h
  obtain ⟨persons, -, rfl⟩ := h
  have htext := r.grammar.written_pieces text
  have htag : ∀ p text, personAnswer preset persons p = some text → ∃ rest, text = '<' :: rest :=
    fun _ _ => tag_of_personAnswer
  rcases rewrite_eq_or_lt htag (r.grammar.pieces text) with ⟨heq, hnone⟩ | hlt
  · exact .inl ⟨heq.trans htext, persons, hnone⟩
  · rw [htext] at hlt
    exact .inr hlt

theorem choicePass_eq_or_lt {r : Resolver} {text after : Text}
    (h : (r.choicePass preset text).Yields after) :
    (after = text ∧ ∀ p ∈ placeholders (r.grammar.pieces text),
      (answerChoice preset p).Yields none) ∨ after < text := by
  have hcases := rewriteM_eq_or_lt (fun _ _ => tag_of_answerChoice) h
  rwa [r.grammar.written_pieces text] at hcases

theorem fieldPass_eq_or_lt (r : Resolver) (text : Text) :
    (r.fieldPass preset text = text ∧ ∀ p ∈ placeholders (r.grammar.pieces text),
      answerField preset p = none) ∨ r.fieldPass preset text < text := by
  have htag : ∀ p text, answerField preset p = some text → ∃ rest, text = '<' :: rest :=
    fun _ _ => tag_of_answerField
  have hcases := rewrite_eq_or_lt htag (r.grammar.pieces text)
  rwa [r.grammar.written_pieces text] at hcases

/-- The later passes make a text smaller, or they leave it as it is and it has nothing for them. -/
theorem laterPasses_eq_or_lt {r : Resolver} {text after : Text}
    (h : (r.laterPasses preset text).Yields after) :
    (after = text ∧ ∀ p ∈ placeholders (r.grammar.pieces text), preset.rule? p = none) ∨
      after < text := by
  obtain ⟨text₁, h₁, h⟩ := Draw.yields_bind.1 h
  obtain ⟨text₂, h₂, h⟩ := Draw.yields_bind.1 h
  obtain rfl := Draw.yields_pure.1 h
  -- from the first pass on that changes something, no later one can make up for it
  rcases personPass_eq_or_lt h₁ with ⟨rfl, persons, hperson⟩ | hlt₁
  · rcases choicePass_eq_or_lt h₂ with ⟨rfl, hchoice⟩ | hlt₂
    · rcases fieldPass_eq_or_lt r text₂ with ⟨heq, hfield⟩ | hlt₃
      · exact .inl ⟨heq, fun p hp => rule?_eq_none (hperson p hp) (hchoice p hp) (hfield p hp)⟩
      · exact .inr hlt₃
    · rcases fieldPass_eq_or_lt r text₂ with ⟨heq, -⟩ | hlt₃
      · rw [heq]
        exact .inr hlt₂
      · exact .inr (hlt₃.trans hlt₂)
  · have hle₂ : text₂ ≤ text₁ := by
      rcases choicePass_eq_or_lt h₂ with ⟨rfl, -⟩ | hlt₂
      · exact le_rfl
      · exact hlt₂.le
    have hle₃ : r.fieldPass preset text₂ ≤ text₂ := by
      rcases fieldPass_eq_or_lt r text₂ with ⟨heq, -⟩ | hlt₃
      · exact heq.le
      · exact hlt₃.le
    exact .inr ((hle₃.trans hle₂).trans_lt hlt₁)

def linkedText (r : Resolver) (description : Text) (pair : Text × Text) : Text :=
  rewrite (linkedAnswer pair) (r.grammar.pieces description)

section Resolve

variable {σ : Type} [Source σ] {r : Resolver} {description : Text} {source : σ}
  {pair : Text × Text}

theorem resolve_linked (hannotate : preset.annotate = none)
    (hlinked : ∀ p ∈ placeholders (r.grammar.pieces description), p.isLinked = true)
    (hpair : (r.participants.pair.run source).value = some pair) :
    ∃ rest : σ, ((r.resolve preset description).run source).value =
      ((r.laterPasses preset (r.linkedText description pair)).run rest).value := by
  have hresolve : r.resolve preset description =
      r.drawPair (r.grammar.pieces description) >>= fun pair =>
        r.laterPasses preset (r.linkedText description pair) := by
    have hplain : r.resolve preset description = r.substitute preset description >>= pure := by
      rw [resolve, hannotate]
    rw [hplain, bind_pure, substitute_eq_bind, linkedPass_eq, bind_map_left]
    rfl
  rw [hresolve]
  by_cases hany : (placeholders (r.grammar.pieces description)).any Placeholder.isLinked = true
  · rw [drawPair, if_pos hany, Draw.value_run_bind hpair]
    exact ⟨_, rfl⟩
  · have hnone : placeholders (r.grammar.pieces description) = [] := by
      rw [List.eq_nil_iff_forall_not_mem]
      intro p hp
      exact hany (List.any_eq_true.2 ⟨p, hp, hlinked p hp⟩)
    have hsame : r.linkedText description (r.participants.first, r.participants.second) =
        r.linkedText description pair :=
      rewrite_congr fun p hp => absurd (hnone ▸ hp) List.not_mem_nil
    rw [drawPair, if_neg hany, pure_bind, hsame]
    exact ⟨source, rfl⟩

theorem placeholders_linkedText
    (hlinked : ∀ p ∈ placeholders (r.grammar.pieces description), p.isLinked = true)
    (hfirst : '[' ∉ pair.1) (hsecond : '[' ∉ pair.2) :
    placeholders (r.grammar.pieces (r.linkedText description pair)) = [] := by
  rw [linkedText, pieces_linked hfirst hsecond, placeholders_splice, List.filter_eq_nil_iff]
  intro p hp
  simp [linkedAnswer, hlinked p hp]

end Resolve

/-- A description that has only bare `A` and `B` is resolved to its text with the drawn pair exactly
when that text has no placeholder with a rule. Names without an opening bracket never give one. -/
theorem resolve_linked_iff {σ : Type} [Source σ] (r : Resolver) (preset : Preset)
    (description : Text) (source : σ) (pair : Text × Text) (hannotate : preset.annotate = none)
    (hlinked : ∀ p ∈ placeholders (r.grammar.pieces description), p.isLinked = true)
    (hpair : (r.participants.pair.run source).value = some pair) :
    (pair = (r.participants.first, r.participants.second) ∨
      pair = (r.participants.second, r.participants.first)) ∧
    (((r.resolve preset description).run source).value = some (r.linkedText description pair) ↔
      ∀ p ∈ placeholders (r.grammar.pieces (r.linkedText description pair)),
        preset.rule? p = none) ∧
    ((∀ name ∈ r.participants.names, '[' ∉ name) →
      ((r.resolve preset description).run source).value = some (r.linkedText description pair)) := by
  obtain ⟨rest, hrun⟩ := resolve_linked hannotate hlinked hpair
  have hiff : ((r.resolve preset description).run source).value =
        some (r.linkedText description pair) ↔
      ∀ p ∈ placeholders (r.grammar.pieces (r.linkedText description pair)),
        preset.rule? p = none := by
    constructor
    · intro hvalue
      rw [hrun] at hvalue
      rcases laterPasses_eq_or_lt (Draw.yields_of_run hvalue) with ⟨-, hnone⟩ | hlt
      · exact hnone
      · exact absurd hlt (lt_irrefl _)
    · intro hnone
      rw [hrun, laterPasses_eq_pure hnone]
      rfl
  have hyields := Draw.yields_of_run hpair
  refine ⟨eq_of_yields_pair hyields, hiff, fun hnames => hiff.2 ?_⟩
  obtain ⟨hfirst, hsecond⟩ := mem_names_of_pair hyields
  rw [placeholders_linkedText hlinked (hnames _ hfirst) (hnames _ hsecond)]
  simp

def duty : Preset where
  label := "Duty".toList
  personKeys := ["WHO".toList]

theorem resolve_linked_iff_without_rule :
    let r : Resolver := { participants := ⟨"[NOTE]".toList, "Bo".toList, by decide⟩ }
    let description := "[A] cooks, [b] cleans".toList
    (∀ p ∈ placeholders (r.grammar.pieces description), p.isLinked = true) ∧
    (r.participants.pair.run (Script.mk [1])).value = some ("Bo".toList, "[NOTE]".toList) ∧
    ((r.resolve duty description).run (Script.mk [1])).value =
      some "<b>Bo</b> cooks, <b>[NOTE]</b> cleans".toList := by
  intro r description
  have hlinked : ∀ p ∈ placeholders (r.grammar.pieces description), p.isLinked = true := by
    decide +kernel
  have hpair : (r.participants.pair.run (Script.mk [1])).value =
      some ("Bo".toList, "[NOTE]".toList) := by decide
  obtain ⟨-, hiff, -⟩ := resolve_linked_iff r duty description (Script.mk [1]) _ rfl hlinked hpair
  refine ⟨hlinked, hpair, (hiff.2 ?_).trans ?_⟩
  · decide +kernel
  · decide +kernel

/-- A participant who is called like a person key: both places go to the other one. -/
theorem resolve_named_like_key :
    ∃ participants : Participants,
      let r : Resolver := { participants }
      let description := "[A] cooks, [B] cleans".toList
      duty.validate = .ok duty ∧ duty.annotate = none ∧
      Participants.ofPair "[WHO]".toList "Bo".toList = .ok participants ∧
      (∀ p ∈ placeholders (r.grammar.pieces description), p.isLinked = true) ∧
      ((r.resolve duty description).run (Script.mk [0, 1])).value =
        some "<b><b>Bo</b></b> cooks, <b>Bo</b> cleans".toList ∧
      ((r.resolve duty description).run (Script.mk [0, 1])).value ≠
        some (r.linkedText description (participants.first, participants.second)) ∧
      ((r.resolve duty description).run (Script.mk [0, 1])).value ≠
        some (r.linkedText description (participants.second, participants.first)) := by
  refine ⟨⟨"[WHO]".toList, "Bo".toList, by decide⟩, rfl, rfl, rfl, ?_, ?_, ?_, ?_⟩ <;>
    decide +kernel

end Resolver

end EventText
