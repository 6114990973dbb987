import EventText.Proofs.Template.Rewriting

/-! Rewriting as weaving. The placeholders among the pieces leave gaps, and a text is its gaps and its
placeholders in turn (`weave_written`). A rewriting is the same gaps in turn with the answers
(`rewriteM_pieces`, `rewrite_eq_weave`). -/

namespace EventText.Template

/-- Gaps and parts in turn, beginning and ending with a gap. -/
def weave : List Text → List Text → Text
  | gap :: gaps, part :: parts => gap ++ part ++ weave gaps parts
  | gaps, _ => gaps.flatten

/-- What stands between the placeholders among the pieces, before the first and behind the last. -/
def gaps : List Piece → List Text
  | [] => [[]]
  | .letter c :: rest => (gaps rest).modifyHead (c :: ·)
  | .token _ :: rest => [] :: gaps rest

/-- The parts to weave in: the answers, and the placeholders that got none as they stand. -/
def answered : List Placeholder → List (Option Text) → List Text :=
  List.zipWith fun p answer => answer.getD p.written

theorem gaps_ne_nil (ps : List Piece) : gaps ps ≠ [] := by
  induction ps with
  | nil => exact List.cons_ne_nil _ _
  | cons piece rest ih =>
    cases piece with
    | letter c => simpa [gaps] using ih
    | token p => exact List.cons_ne_nil _ _

theorem length_gaps (ps : List Piece) : (gaps ps).length = (placeholders ps).length + 1 := by
  induction ps with
  | nil => rfl
  | cons piece rest ih =>
    cases piece with
    | letter c => rw [gaps, List.length_modifyHead, ih, placeholders_letter]
    | token p => rw [gaps, List.length_cons, ih, placeholders_token, List.length_cons]

theorem weave_modifyHead {between : List Text} (hne : between ≠ []) (c : Char) (parts : List Text) :
    weave (between.modifyHead (c :: ·)) parts = c :: weave between parts := by
  cases between with
  | nil => exact absurd rfl hne
  | cons gap rest => cases parts <;> simp [weave]

section Lawful

variable {m : Type → Type} [Monad m] [LawfulMonad m]

theorem rewriteM_pieces (offer : Placeholder → m (Option Text)) (ps : List Piece) :
    rewriteM offer ps =
      (fun answers => weave (gaps ps) (answered (placeholders ps) answers)) <$>
        (placeholders ps).mapM offer := by
  induction ps with
  | nil =>
    change pure [] = _ <$> [].mapM offer
    rw [List.mapM_nil, map_pure]
    rfl
  | cons piece rest ih =>
    cases piece with
    | letter c =>
      simp only [rewriteM, ih, gaps, placeholders_letter, weave_modifyHead (gaps_ne_nil rest),
        bind_pure_comp, Functor.map_map]
    | token p =>
      simp only [rewriteM, ih, gaps, placeholders_token, List.mapM_cons, bind_pure_comp,
        Functor.map_map, map_bind]
      rfl

end Lawful

/-- A rewriting puts its answers where their placeholders are, and leaves all else as it stands. -/
theorem rewrite_eq_weave (f : Placeholder → Option Text) (ps : List Piece) :
    rewrite f ps = weave (gaps ps) ((placeholders ps).map fun p => (f p).getD p.written) := by
  have hpieces := rewriteM_pieces (m := Id) (fun p => pure (f p)) ps
  rw [List.mapM_pure, map_pure] at hpieces
  rw [rewrite, hpieces, answered, List.zipWith_map_right, List.zipWith_self]
  rfl

theorem weave_written (ps : List Piece) :
    weave (gaps ps) ((placeholders ps).map Placeholder.written) = written ps := by
  rw [← rewrite_none, rewrite_eq_weave]
  rfl

end EventText.Template
