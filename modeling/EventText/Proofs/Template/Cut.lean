import EventText.Proofs.Template.Reading

/-! Cuts of a text. A list of pieces is a cut when its placeholders are well formed and no bracket
among its letters opens one. `bracketPieces_eq_iff`: the walk from bracket to bracket finds the one
cut of a text. -/

namespace EventText

namespace Template

@[simp] theorem written_nil : written [] = [] := rfl

@[simp] theorem written_letter (c : Char) (rest : List Piece) :
    written (.letter c :: rest) = c :: written rest := rfl

@[simp] theorem written_token (p : Placeholder) (rest : List Piece) :
    written (.token p :: rest) = p.written ++ written rest := rfl

@[simp] theorem placeholders_letter (c : Char) (rest : List Piece) :
    placeholders (.letter c :: rest) = placeholders rest := rfl

@[simp] theorem placeholders_token (p : Placeholder) (rest : List Piece) :
    placeholders (.token p :: rest) = p :: placeholders rest := rfl

/-- The pieces are all that can be found in their text. -/
inductive Cut : List Piece → Prop where
  | nil : Cut []
  | letter {c : Char} {rest : List Piece} :
      (c = '[' → opensPlaceholder (written rest) = false) → Cut rest → Cut (.letter c :: rest)
  | token {p : Placeholder} {rest : List Piece} : p.WellFormed → Cut rest → Cut (.token p :: rest)

theorem Cut.wellFormed {ps : List Piece} (h : Cut ps) : ∀ p ∈ placeholders ps, p.WellFormed := by
  induction h with
  | nil => simp [placeholders]
  | letter _ _ ih => exact ih
  | token hp _ ih => exact List.forall_mem_cons.2 ⟨hp, ih⟩

instance (p : Placeholder) : Decidable p.WellFormed :=
  decidable_of_iff
    (isValidKey p.key = true ∧ ∀ payload ∈ p.payload, payload.all isPayloadChar = true)
    ⟨fun h => ⟨h.1, fun payload hp => List.all_eq_true.1 (h.2 payload hp)⟩,
      fun h => ⟨h.key_valid, fun payload hp => List.all_eq_true.2 (h.payload_all payload hp)⟩⟩

theorem cut_letter_iff {c : Char} {rest : List Piece} :
    Cut (.letter c :: rest) ↔ (c = '[' → opensPlaceholder (written rest) = false) ∧ Cut rest := by
  constructor
  · rintro (_ | ⟨hopen, hrest⟩)
    exact ⟨hopen, hrest⟩
  · rintro ⟨hopen, hrest⟩
    exact .letter hopen hrest

theorem cut_token_iff {p : Placeholder} {rest : List Piece} :
    Cut (.token p :: rest) ↔ p.WellFormed ∧ Cut rest := by
  constructor
  · rintro (_ | _ | ⟨hp, hrest⟩)
    exact ⟨hp, hrest⟩
  · rintro ⟨hp, hrest⟩
    exact .token hp hrest

instance decidableCut : (ps : List Piece) → Decidable (Cut ps)
  | [] => isTrue .nil
  | .letter _ :: rest => @decidable_of_iff _ _ cut_letter_iff.symm
      (@instDecidableAnd _ _ inferInstance (decidableCut rest))
  | .token _ :: rest => @decidable_of_iff _ _ cut_token_iff.symm
      (@instDecidableAnd _ _ inferInstance (decidableCut rest))

end Template

open Template

theorem bracketPieces_letter {c : Char} (hc : c ≠ '[') (rest : Text) :
    bracketPieces (c :: rest) = .letter c :: bracketPieces rest := by
  rw [bracketPieces, if_neg hc]

theorem bracketPieces_none {rest : Text} (h : afterBracket? rest = none) :
    bracketPieces ('[' :: rest) = .letter '[' :: bracketPieces rest := by
  rw [bracketPieces, if_pos rfl]
  split
  · rename_i hsome
    rw [h] at hsome
    cases hsome
  · rfl

theorem bracketPieces_some {rest after : Text} {p : Placeholder}
    (h : afterBracket? rest = some (p, after)) :
    bracketPieces ('[' :: rest) = .token p :: bracketPieces after := by
  rw [bracketPieces, if_pos rfl]
  split
  · rename_i hsome
    rw [h] at hsome
    obtain ⟨rfl, rfl⟩ := Prod.mk.inj (Option.some.inj hsome)
    rfl
  · rename_i hnone
    rw [h] at hnone
    cases hnone

theorem written_bracketPieces (text : Text) : written (bracketPieces text) = text := by
  induction text using bracketPieces.induct with
  | case1 => simp [bracketPieces]
  | case2 rest p after h ih =>
    rw [bracketPieces_some h, written_token, ih]
    exact (afterBracket?_sound h).2.symm
  | case3 rest h ih => rw [bracketPieces_none h, written_letter, ih]
  | case4 c rest hc ih => rw [bracketPieces_letter hc, written_letter, ih]

theorem cut_bracketPieces (text : Text) : Cut (bracketPieces text) := by
  induction text using bracketPieces.induct with
  | case1 =>
    rw [bracketPieces]
    exact .nil
  | case2 rest p after h ih =>
    rw [bracketPieces_some h]
    exact .token (afterBracket?_sound h).1 ih
  | case3 rest h ih =>
    rw [bracketPieces_none h]
    refine .letter (fun _ => ?_) ih
    rw [written_bracketPieces]
    exact (afterBracket?_eq_none_iff rest).1 h
  | case4 c rest hc ih =>
    rw [bracketPieces_letter hc]
    exact .letter (fun h => absurd h hc) ih

theorem Template.Cut.bracketPieces_written {ps : List Piece} (h : Cut ps) :
    bracketPieces (written ps) = ps := by
  induction h with
  | nil => simp [bracketPieces]
  | @letter c rest hopen _ ih =>
    rw [written_letter]
    by_cases hc : c = '['
    · subst hc
      rw [bracketPieces_none ((afterBracket?_eq_none_iff _).2 (hopen rfl)), ih]
    · rw [bracketPieces_letter hc, ih]
  | @token p rest hp _ ih =>
    obtain ⟨inner, hinner⟩ := p.exists_written_eq_cons
    have hread := afterBracket?_complete hp (written rest)
    rw [hinner, List.cons_append, List.tail_cons] at hread
    rw [written_token, hinner, List.cons_append, bracketPieces_some hread, ih]

theorem bracketPieces_eq_iff {text : Text} {ps : List Piece} :
    bracketPieces text = ps ↔ Cut ps ∧ written ps = text := by
  constructor
  · rintro rfl
    exact ⟨cut_bracketPieces text, written_bracketPieces text⟩
  · rintro ⟨hcut, rfl⟩
    exact hcut.bracketPieces_written

end EventText
