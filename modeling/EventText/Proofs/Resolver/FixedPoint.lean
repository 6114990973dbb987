import EventText.Proofs.Food.Placeholders
import EventText.Proofs.Resolver.Leftovers

/-! Resolving a resolved text. The passes have left nothing that they would answer, and the marks of
foods give them nothing: a placeholder with a mark in it has a label in its payload, so it is neither
an empty choice nor a blank field. The second resolving therefore draws nothing and changes nothing
(`resolve_resolve`). -/

namespace EventText

open Template

/-- Marks do not make a placeholder one that a rule applies to. -/
theorem Preset.isIdle_of_markedAs {preset : Preset} {p q : Placeholder} (h : p.MarkedAs q)
    (hp : preset.isIdle p = true) : preset.isIdle q = true := by
  rcases h with rfl | ⟨hkey, hq, payload, hpayload, hlabel⟩
  · exact hp
  · obtain ⟨marked, hmarked⟩ := Option.isSome_iff_exists.1 hq
    have hitems : splitItems payload ≠ [] := splitItems_ne_nil hlabel (by decide) (by decide)
    have hvalue : payload.trim ≠ [] := List.ne_nil_of_mem (Text.mem_trim hlabel (by decide))
    have hrule : preset.rule? p = none := by
      simpa using (Bool.and_eq_true_iff.1 hp).2
    rw [Preset.rule?, Option.mem_def.1 hpayload] at hrule
    have hrole : preset.role? q.key ≠ some .choice ∧ preset.role? q.key ≠ some .field := by
      rw [hkey]
      constructor
      · intro hchoice
        simp [hchoice, hitems] at hrule
      · intro hfield
        simp [hfield, hvalue] at hrule
    simp [Preset.isIdle, Preset.rule?, Placeholder.isLinked, Placeholder.isBare, hmarked, hrole]

namespace Resolver

variable {r : Resolver} {preset : Preset} {text : Text}

theorem isIdle_annotateFood
    (h : ∀ p ∈ placeholders (r.grammar.pieces text), preset.isIdle p = true) :
    ∀ p ∈ placeholders (r.grammar.pieces (annotateFood text)), preset.isIdle p = true := by
  rw [Grammar.pieces_eq_bracketPieces] at h ⊢
  intro q hq
  obtain ⟨p, hp, hpq⟩ := placeholders_of_marked (marked_annotateFood text) q hq
  exact Preset.isIdle_of_markedAs hpq (h p hp)

def annotated (preset : Preset) (text : Text) : Text :=
  match preset.annotate with
  | some annotate => annotate text
  | none => text

theorem resolve_eq_map (r : Resolver) (preset : Preset) (text : Text) :
    r.resolve preset text = annotated preset <$> r.substitute preset text := by
  rw [map_eq_pure_bind]
  rfl

theorem isIdle_annotated (hannotate : preset.annotate = none ∨ preset.annotate = some annotateFood)
    (h : ∀ p ∈ placeholders (r.grammar.pieces text), preset.isIdle p = true) :
    ∀ p ∈ placeholders (r.grammar.pieces (annotated preset text)), preset.isIdle p = true := by
  rcases hannotate with hnone | hfood
  · rw [annotated, hnone]
    exact h
  · rw [annotated, hfood]
    exact isIdle_annotateFood h

theorem annotated_annotated
    (hannotate : preset.annotate = none ∨ preset.annotate = some annotateFood) :
    annotated preset (annotated preset text) = annotated preset text := by
  rcases hannotate with hnone | hfood
  · simp only [annotated, hnone]
  · simp only [annotated, hfood, annotateFood_annotateFood]

/-- Where no opening bracket is put in, a resolved text is a fixed point: resolving it again, from
whatever source, gives it back and leaves the source alone. -/
theorem resolve_resolve (r : Resolver) (preset : Preset) (description : Text)
    (hannotate : preset.annotate = none ∨ preset.annotate = some annotateFood)
    (h : r.Sealed preset (r.grammar.pieces description)) (σ τ : Type) [Source σ] [Source τ]
    (source : σ) (second : τ) :
    ∃ text, ((r.resolve preset description).run source).value = some text ∧
      (r.resolve preset text).run second = ⟨some text, second, 0⟩ := by
  obtain ⟨text, hvalue⟩ := (answerable_substitute r preset description).exists_value source
  have hidle : ∀ p ∈ placeholders (r.grammar.pieces text), preset.isIdle p = true := by
    rw [placeholders_substitute h (Draw.yields_of_run hvalue)]
    exact fun p hp => (List.mem_filter.1 hp).2
  refine ⟨annotated preset text, ?_, ?_⟩
  · rw [resolve_eq_map, Draw.value_run_map, hvalue]
    rfl
  · rw [resolve_eq_map, substitute_eq_pure (isIdle_annotated hannotate hidle), map_pure,
      annotated_annotated hannotate]
    rfl

def dinnerMarked : Preset :=
  { dinnerOut with annotate := some annotateFood }

theorem resolve_resolve_odd_names :
    let description := "What to eat: [FOOD: taco, ramen] [x: What to eat: <b>] Sushi</b>[NAME: ]".toList
    let resolved := ("🌮 What to eat: <b>taco</b>\nBetter luck next time for ramen. " ++
      "[x: 🍣 What to eat: <b>] Sushi</b>[NAME: ]").toList
    dinnerMarked.annotate = some annotateFood ∧
    oddNames.Sealed dinnerMarked (oddNames.grammar.pieces description) ∧
    ((oddNames.resolve dinnerMarked description).run (Script.mk [0])).value = some resolved ∧
    (oddNames.resolve dinnerMarked resolved).run (Script.mk [1]) =
      ⟨some resolved, Script.mk [1], 0⟩ := by
  intro description resolved
  have hsealed : oddNames.Sealed dinnerMarked (oddNames.grammar.pieces description) :=
    ⟨⟨by decide, by decide, by decide +kernel⟩, by decide +kernel⟩
  have hrun : ((oddNames.resolve dinnerMarked description).run (Script.mk [0])).value =
      some resolved := by
    decide +kernel
  obtain ⟨text, hvalue, hagain⟩ := resolve_resolve oddNames dinnerMarked description (.inr rfl)
    hsealed Script Script (Script.mk [0]) (Script.mk [1])
  obtain rfl := Option.some.inj (hrun.symm.trans hvalue)
  exact ⟨rfl, hsealed, hrun, hagain⟩

end Resolver

end EventText
