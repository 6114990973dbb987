import EventText.Proofs.Template.Splice

/-! Rewriting as splicing. A rewriting writes out the pieces in which its answers are spliced
(`rewriteM_eq_map_spliceM`), and two rewritings of which one comes after the other on the spliced
pieces are one rewriting that asks the second where the first has no answer (`rewriteM_splice`,
`rewrite_map_spliceM`). -/

namespace EventText.Template

variable {m : Type → Type} [Monad m]

def spliceM (offer : Placeholder → m (Option Text)) : List Piece → m (List Piece)
  | [] => pure []
  | .letter c :: rest => do
    let after ← spliceM offer rest
    return .letter c :: after
  | .token p :: rest => do
    let answer ← offer p
    let after ← spliceM offer rest
    return match answer with
      | some text => text.map .letter ++ after
      | none => .token p :: after

def splice (offer : Placeholder → Option Text) : List Piece → List Piece
  | [] => []
  | .letter c :: rest => .letter c :: splice offer rest
  | .token p :: rest =>
    match offer p with
    | some text => text.map .letter ++ splice offer rest
    | none => .token p :: splice offer rest

theorem rewriteM_congr {f g : Placeholder → m (Option Text)} {ps : List Piece}
    (h : ∀ p ∈ placeholders ps, f p = g p) : rewriteM f ps = rewriteM g ps := by
  induction ps with
  | nil => rfl
  | cons piece rest ih =>
    cases piece with
    | letter c => simp only [rewriteM, ih h]
    | token p =>
      rw [placeholders_token, List.forall_mem_cons] at h
      simp only [rewriteM, h.1, ih h.2]

section Lawful

variable [LawfulMonad m]

theorem rewriteM_eq_map_spliceM (offer : Placeholder → m (Option Text)) (ps : List Piece) :
    rewriteM offer ps = written <$> spliceM offer ps := by
  induction ps with
  | nil => simp [rewriteM, spliceM]
  | cons piece rest ih =>
    cases piece with
    | letter c => simp [rewriteM, spliceM, ih]
    | token p =>
      simp only [rewriteM, spliceM, ih, map_bind, bind_map_left, map_pure]
      refine bind_congr fun answer => bind_congr fun after => ?_
      cases answer <;> simp [written_append, written_letters]

theorem rewriteM_pure (f : Placeholder → Option Text) (ps : List Piece) :
    rewriteM (fun p => (pure (f p) : m (Option Text))) ps = pure (rewrite f ps) := by
  induction ps with
  | nil => rfl
  | cons piece rest ih => cases piece <;> simp [rewrite, rewriteM, ih]

theorem rewriteM_letters (offer : Placeholder → m (Option Text)) (text : Text) (ps : List Piece) :
    rewriteM offer (text.map .letter ++ ps) = (text ++ ·) <$> rewriteM offer ps := by
  induction text with
  | nil => simp
  | cons c text ih => simp [rewriteM, ih]

theorem rewriteM_splice (f : Placeholder → Option Text) (g : Placeholder → m (Option Text))
    (ps : List Piece) :
    rewriteM g (splice f ps) =
      rewriteM (fun p => match f p with
        | some text => pure (some text)
        | none => g p) ps := by
  induction ps with
  | nil => rfl
  | cons piece rest ih =>
    cases piece with
    | letter c => simp only [splice, rewriteM, ih]
    | token p =>
      cases h : f p with
      | none => simp only [splice, rewriteM, h, ih]
      | some text => simp [splice, rewriteM, h, rewriteM_letters, ih]

end Lawful

theorem rewrite_letter (f : Placeholder → Option Text) (c : Char) (rest : List Piece) :
    rewrite f (.letter c :: rest) = c :: rewrite f rest := rfl

theorem rewrite_token (f : Placeholder → Option Text) (p : Placeholder) (rest : List Piece) :
    rewrite f (.token p :: rest) = (f p).getD p.written ++ rewrite f rest := rfl

theorem rewrite_congr {f g : Placeholder → Option Text} {ps : List Piece}
    (h : ∀ p ∈ placeholders ps, f p = g p) : rewrite f ps = rewrite g ps :=
  congrArg Id.run (rewriteM_congr fun p hp => congrArg pure (h p hp))

theorem rewrite_letters (f : Placeholder → Option Text) (text : Text) (ps : List Piece) :
    rewrite f (text.map .letter ++ ps) = text ++ rewrite f ps :=
  congrArg Id.run (rewriteM_letters _ text ps)

theorem rewrite_none (ps : List Piece) : rewrite (fun _ => none) ps = written ps := by
  induction ps with
  | nil => rfl
  | cons piece rest ih =>
    cases piece with
    | letter c => rw [rewrite_letter, ih, written_letter]
    | token p => rw [rewrite_token, ih, written_token, Option.getD_none]

theorem written_splice (f : Placeholder → Option Text) (ps : List Piece) :
    written (splice f ps) = rewrite f ps := by
  induction ps with
  | nil => rfl
  | cons piece rest ih =>
    cases piece with
    | letter c => rw [splice, written_letter, ih, rewrite_letter]
    | token p =>
      cases h : f p with
      | none => simp [splice, h, ih, rewrite_token]
      | some text => simp [splice, h, ih, rewrite_token, written_append, written_letters]

theorem placeholders_splice (f : Placeholder → Option Text) (ps : List Piece) :
    placeholders (splice f ps) = (placeholders ps).filter fun p => (f p).isNone := by
  induction ps with
  | nil => rfl
  | cons piece rest ih =>
    cases piece with
    | letter c => rw [splice, placeholders_letter, ih, placeholders_letter]
    | token p => cases h : f p <;> simp [splice, h, ih, placeholders_letters]

/-- Answering what another pass has left, in one pass. -/
theorem rewrite_map_spliceM [LawfulMonad m] (f : Placeholder → m (Option Text))
    (g : Placeholder → Option Text) (ps : List Piece) :
    rewrite g <$> spliceM f ps = rewriteM (fun p => (·.or (g p)) <$> f p) ps := by
  induction ps with
  | nil => simp [rewriteM, spliceM, rewrite]
  | cons piece rest ih =>
    cases piece with
    | letter c => simp [rewriteM, spliceM, ← ih, rewrite_letter]
    | token p =>
      simp only [rewriteM, spliceM, ← ih, map_bind, bind_map_left, map_pure]
      refine bind_congr fun answer => bind_congr fun after => ?_
      cases answer with
      | none => rw [rewrite_token, Option.none_or]
      | some text => rw [rewrite_letters, Option.some_or, Option.getD_some]

theorem spliced_splice (f : Placeholder → Option Text) (ps : List Piece) :
    Spliced (fun p answer => answer = f p) ps (splice f ps) := by
  induction ps with
  | nil => exact .nil
  | cons piece rest ih =>
    cases piece with
    | letter c => exact .letter ih
    | token p =>
      cases h : f p with
      | none => simpa only [splice, h] using Spliced.keep h.symm ih
      | some text => simpa only [splice, h] using Spliced.put h.symm ih

theorem spliced_of_yields {offer : Placeholder → Draw (Option Text)} {ps qs : List Piece}
    (h : (spliceM offer ps).Yields qs) : Spliced (fun p => (offer p).Yields) ps qs := by
  induction ps generalizing qs with
  | nil =>
    obtain rfl := h
    exact .nil
  | cons piece rest ih =>
    cases piece with
    | letter c =>
      obtain ⟨after, hafter, rfl⟩ := Draw.yields_bind.1 h
      exact .letter (ih hafter)
    | token p =>
      obtain ⟨answer, hanswer, hrest⟩ := Draw.yields_bind.1 h
      obtain ⟨after, hafter, rfl⟩ := Draw.yields_bind.1 hrest
      cases answer with
      | none => exact .keep hanswer (ih hafter)
      | some text => exact .put hanswer (ih hafter)

theorem asks_rewriteM {offer : Placeholder → Draw (Option Text)} {counts : Placeholder → List Nat}
    {ps : List Piece} (h : ∀ p ∈ placeholders ps, (offer p).Asks (counts p)) :
    (rewriteM offer ps).Asks ((placeholders ps).flatMap counts) := by
  induction ps with
  | nil => exact rfl
  | cons piece rest ih =>
    cases piece with
    | letter c => exact (ih h).map (c :: ·)
    | token p =>
      rw [placeholders_token, List.forall_mem_cons] at h
      rw [placeholders_token, List.flatMap_cons]
      exact h.1.bind fun answer => (ih h.2).map (answer.getD p.written ++ ·)

theorem answerable_rewriteM {offer : Placeholder → Draw (Option Text)}
    (h : ∀ p, (offer p).Answerable) (ps : List Piece) : (rewriteM offer ps).Answerable := by
  induction ps with
  | nil => exact Draw.answerable_pure _
  | cons piece rest ih =>
    cases piece with
    | letter c => exact ih.map (c :: ·)
    | token p => exact (h p).bind fun answer => ih.map (answer.getD p.written ++ ·)

end EventText.Template
