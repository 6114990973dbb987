import EventText.Draw.Script
import EventText.Proofs.Resolver.Answers

/-! What a choice says. The items are the parts between commas, trimmed, without the empty ones; one
index is drawn among them, and the answer names the item there in bold and all others behind it, each as
often and in the order in which they stand (`run_resolveChoice`). -/

namespace EventText

/-- What is said when an item is picked and the others, in their order, are not. -/
inductive Announces (picked : Text) : List Text → Text → Prop where
  | alone : Announces picked [] ("<b>".toList ++ picked ++ "</b>".toList)
  | overOne (other : Text) : Announces picked [other]
      ("<b>".toList ++ picked ++ "</b>\nBetter luck next time for ".toList ++ other ++ ".".toList)
  | overMore {init : List Text} (last : Text) : init ≠ [] → Announces picked (init ++ [last])
      ("<b>".toList ++ picked ++ "</b>\nBetter luck next time for ".toList ++
        ", ".toList.intercalate init ++ " and ".toList ++ last ++ ".".toList)

theorem sep_not_mem_of_mem_splitOn {sep : Char} {text part : Text} (h : part ∈ text.splitOn sep) :
    sep ∉ part := by
  induction text generalizing part with
  | nil =>
    rw [List.splitOn_nil, List.mem_singleton] at h
    rw [h]
    exact List.not_mem_nil
  | cons c rest ih =>
    rcases cases_of_mem_splitOn_cons h with rfl | hrest | ⟨hne, first, hfirst, rfl⟩
    · exact List.not_mem_nil
    · exact ih hrest
    · rw [List.mem_cons, not_or]
      exact ⟨hne.symm, ih hfirst⟩

/-- The items are the trimmed parts between the commas of the payload, those that are not empty. -/
theorem exists_parts (payload : Text) :
    ∃ parts : List Text, (∀ part ∈ parts, ',' ∉ part) ∧ [','].intercalate parts = payload ∧
      splitItems payload = (parts.map Text.trim).filter fun item => !item.isEmpty :=
  ⟨payload.splitOn ',', fun _ => sep_not_mem_of_mem_splitOn, List.intercalate_splitOn ',', rfl⟩

theorem joinWithAnd_append {init : List Text} (hne : init ≠ []) (last : Text) :
    joinWithAnd (init ++ [last]) = ", ".toList.intercalate init ++ " and ".toList ++ last := by
  induction init with
  | nil => exact absurd rfl hne
  | cons first more ih =>
    cases more with
    | nil => rw [List.intercalate_singleton]; rfl
    | cons second more =>
      have hrest := ih (List.cons_ne_nil _ _)
      obtain ⟨third, rest, hsplit⟩ := List.exists_cons_of_ne_nil
        (List.append_ne_nil_of_right_ne_nil more (List.cons_ne_nil last []))
      rw [List.cons_append, hsplit] at hrest
      rw [List.cons_append, List.cons_append, hsplit, joinWithAnd, hrest, List.intercalate_cons_cons]
      simp only [List.append_assoc]

theorem announces_consolationLine (picked : Text) (others : List Text) :
    Announces picked others (bold picked ++ consolationLine others) := by
  have htag : "</b>\nBetter luck next time for ".toList = "</b>".toList ++ '\n' :: consolation := rfl
  have hline : ∀ {others : List Text}, others ≠ [] → bold picked ++ consolationLine others =
      "<b>".toList ++ picked ++ "</b>\nBetter luck next time for ".toList ++ joinWithAnd others ++
        ".".toList := by
    intro others hne
    rw [htag, consolationLine, if_neg (by simpa using hne), bold]
    simp only [List.append_assoc, List.cons_append]
    rfl
  rcases List.eq_nil_or_concat' others with rfl | ⟨init, last, rfl⟩
  · rw [consolationLine, if_pos (by rfl), List.append_nil]
    exact .alone
  · rw [hline (List.append_ne_nil_of_right_ne_nil _ (List.cons_ne_nil _ _))]
    by_cases hinit : init = []
    · subst hinit
      exact .overOne last
    · have hmore : Announces picked (init ++ [last]) _ := .overMore last hinit
      rw [joinWithAnd_append hinit]
      simpa only [List.append_assoc] using hmore

theorem announces_announce (items : List Text) (i : Fin items.length) :
    Announces (items.get i) (items.take i.val ++ items.drop (i.val + 1)) (announce items i) := by
  rw [announce_eq, ← List.eraseIdx_eq_take_drop_succ]
  exact announces_consolationLine _ _

theorem resolveChoice_eq_index {payload : Text} (hcount : 0 < (splitItems payload).length) :
    resolveChoice payload =
      .index (splitItems payload).length fun i => .done (some (announce (splitItems payload) i)) := by
  have hne : ¬ (splitItems payload).isEmpty = true := by simpa [List.length_pos_iff] using hcount
  rw [resolveChoice, if_neg hne]
  rfl

/-- A choice without items says nothing and draws nothing. Any other draws one index among its items,
and announces the item there over those before it and behind it. -/
theorem run_resolveChoice {σ : Type} [Source σ] (payload : Text) (source : σ) :
    let items := splitItems payload
    let outcome := (resolveChoice payload).run source
    (∃ parts : List Text, (∀ part ∈ parts, ',' ∉ part) ∧ [','].intercalate parts = payload ∧
      items = (parts.map Text.trim).filter fun item => !item.isEmpty) ∧
    (outcome.value = some none ↔ items = []) ∧
    (items = [] → outcome = ⟨some none, source, 0⟩) ∧
    ∀ hcount : 0 < items.length,
      let drawn := Source.next items.length hcount source
      ∃ answer, Announces (items.get drawn.1)
          (items.take drawn.1.val ++ items.drop (drawn.1.val + 1)) answer ∧
        outcome = ⟨some (some answer), drawn.2, 1⟩ := by
  intro items outcome
  have hdrawn : ∀ hcount : 0 < items.length,
      outcome = ⟨some (some (announce items (Source.next items.length hcount source).1)),
        (Source.next items.length hcount source).2, 1⟩ := by
    intro hcount
    have hrun : outcome =
        (Draw.index items.length fun i => .done (some (announce items i))).run source :=
      congrArg (·.run source) (resolveChoice_eq_index hcount)
    rw [hrun, Draw.run_index hcount]
    rfl
  have hnone : items = [] → outcome = ⟨some none, source, 0⟩ := by
    intro hempty
    have hdone : resolveChoice payload = return none := by
      rw [resolveChoice, if_pos (List.isEmpty_iff.2 hempty)]
    exact congrArg (·.run source) hdone
  refine ⟨exists_parts payload, ⟨?_, fun hempty => by rw [hnone hempty]⟩, hnone, ?_⟩
  · intro hvalue
    by_contra hne
    rw [hdrawn (List.length_pos_iff.2 hne)] at hvalue
    cases hvalue
  · intro hcount drawn
    exact ⟨_, announces_announce items drawn.1, hdrawn hcount⟩

/-- The item that is picked stands a second time among the others. -/
theorem run_resolveChoice_repeated :
    let payload := " a , b,,a,c ".toList
    let outcome := (resolveChoice payload).run (Script.mk [6])
    0 < (splitItems payload).length ∧ outcome.asked = 1 ∧
    ∃ answer, Announces "a".toList ["a".toList, "b".toList, "c".toList] answer ∧
      outcome.value = some (some answer) := by
  intro payload outcome
  have hcount : 0 < (splitItems payload).length := by decide
  let i := (Source.next (splitItems payload).length hcount (Script.mk [6])).1
  have hpicked : (splitItems payload).get i = "a".toList := by decide +revert
  have hothers : (splitItems payload).take i.val ++ (splitItems payload).drop (i.val + 1) =
      ["a".toList, "b".toList, "c".toList] := by decide +revert
  obtain ⟨-, -, -, hdrawn⟩ := run_resolveChoice payload (Script.mk [6])
  obtain ⟨answer, hannounced, hrun⟩ := hdrawn hcount
  rw [hpicked, hothers] at hannounced
  exact ⟨hcount, congrArg Outcome.asked hrun, answer, hannounced, congrArg Outcome.value hrun⟩

end EventText
