import EventText.Proofs.Template.Recognition
import EventText.Proofs.Template.Splice

/-! Recognition goes line by line. What is open at the end of a line is closed by nothing behind it
(`opensPlaceholder_line`), so the cuts of two texts with a line feed between them are the cut of the
whole, and the placeholders of a text are those of its lines, each looked at by itself
(`located_line`). -/

namespace EventText

open Template

section Closing

theorem closesPayload_line (line behind : Text) :
    closesPayload (line ++ '\n' :: behind) = closesPayload line := by
  induction line with
  | nil => rfl
  | cons c line ih => simp only [List.cons_append, closesPayload, ih]

theorem closesKey_line (line behind : Text) :
    closesKey (line ++ '\n' :: behind) = closesKey line := by
  induction line with
  | nil => rfl
  | cons c line ih => simp only [List.cons_append, closesKey, closesPayload_line, ih]

/-- Whether a bracket opens a placeholder is decided on its line. -/
theorem opensPlaceholder_line (line behind : Text) :
    opensPlaceholder (line ++ '\n' :: behind) = opensPlaceholder line := by
  cases line with
  | nil => rfl
  | cons c line => simp only [List.cons_append, opensPlaceholder, closesKey_line]

end Closing

namespace Template

theorem Cut.line {ps qs : List Piece} (hps : Cut ps) (hqs : Cut qs) :
    Cut (ps ++ .letter '\n' :: qs) := by
  induction hps with
  | nil =>
    apply Cut.letter _ hqs
    intro hfeed
    exact absurd hfeed (by decide)
  | letter hopen _ ih =>
    apply Cut.letter _ ih
    intro hbracket
    rw [written_append, written_letter, opensPlaceholder_line]
    exact hopen hbracket
  | token hp _ ih => exact .token hp ih

/-- A span in a text that `distance` bytes were put in front of. -/
def moveSpan (distance : Nat) (span : Nat × Nat × Placeholder) : Nat × Nat × Placeholder :=
  (span.1 + distance, span.2.1 + distance, span.2.2)

theorem locatedFrom_add (start distance : Nat) (ps : List Piece) :
    locatedFrom (start + distance) ps = (locatedFrom start ps).map (moveSpan distance) := by
  induction ps generalizing start with
  | nil => rfl
  | cons piece rest ih =>
    cases piece with
    | letter c => rw [locatedFrom, locatedFrom, ← ih, Nat.add_right_comm]
    | token p =>
      rw [locatedFrom, locatedFrom, List.map_cons, ← ih, moveSpan,
        Nat.add_right_comm start distance]

end Template

namespace Grammar

theorem pieces_line (grammar : Grammar) (a b : Text) :
    grammar.pieces (a ++ '\n' :: b) =
      grammar.pieces a ++ .letter '\n' :: grammar.pieces b := by
  have hcut := (grammar.cut_pieces a).line (grammar.cut_pieces b)
  have hwritten : written (grammar.pieces a ++ .letter '\n' :: grammar.pieces b) = a ++ '\n' :: b := by
    rw [written_append, written_letter, grammar.written_pieces, grammar.written_pieces]
  rw [← hwritten]
  exact grammar.pieces_written hcut

theorem located_append_line (grammar : Grammar) (a b : Text) :
    located (grammar.pieces (a ++ '\n' :: b)) =
      located (grammar.pieces a) ++
        (located (grammar.pieces b)).map (moveSpan (a.utf8Length + 1)) := by
  have hfeed : '\n'.utf8Size = 1 := rfl
  rw [pieces_line, located, locatedFrom_append, locatedFrom, grammar.written_pieces, hfeed,
    Nat.add_assoc, locatedFrom_add]
  rfl

/-- The placeholders of lines, each line looked at by itself and the first one beginning at byte
`start`. Between two lines stands a line feed. -/
def locatedOnLines (grammar : Grammar) (start : Nat) : List Text → List (Nat × Nat × Placeholder)
  | [] => []
  | line :: rest =>
    (located (grammar.pieces line)).map (moveSpan start) ++
      locatedOnLines grammar (start + line.utf8Length + 1) rest

theorem map_moveSpan_add (start distance : Nat) (spans : List (Nat × Nat × Placeholder)) :
    (spans.map (moveSpan start)).map (moveSpan distance) = spans.map (moveSpan (start + distance)) := by
  rw [List.map_map]
  congr 1
  funext span
  simp only [Function.comp_apply, moveSpan, Nat.add_assoc]

theorem located_intercalate (grammar : Grammar) (start : Nat) (lines : List Text) :
    (located (grammar.pieces (['\n'].intercalate lines))).map (moveSpan start) =
      grammar.locatedOnLines start lines := by
  induction lines generalizing start with
  | nil =>
    rw [List.intercalate_nil, grammar.pieces_eq_bracketPieces, bracketPieces]
    rfl
  | cons line rest ih =>
    cases rest with
    | nil => rw [List.intercalate_singleton, locatedOnLines, locatedOnLines, List.append_nil]
    | cons next rest =>
      have htext : ['\n'].intercalate (line :: next :: rest) =
          line ++ '\n' :: ['\n'].intercalate (next :: rest) := by
        rw [List.intercalate_cons_cons, List.append_assoc]
        rfl
      have hstart : line.utf8Length + 1 + start = start + line.utf8Length + 1 := by omega
      rw [htext, located_append_line, List.map_append, map_moveSpan_add, hstart, ih]
      rfl

/-- What stands behind a line feed is recognised as if it stood alone, and so is what stands before
it. So the placeholders of a text are those of its lines, each looked at by itself: no line changes
which ones are found on another, and only its length moves them. -/
theorem located_line (grammar : Grammar) :
    (∀ a b : Text, located (grammar.pieces (a ++ '\n' :: b)) =
      located (grammar.pieces a) ++
        (located (grammar.pieces b)).map (moveSpan (a.utf8Length + 1))) ∧
    ∀ text : Text,
      located (grammar.pieces text) = grammar.locatedOnLines 0 (text.splitOn '\n') := by
  refine ⟨grammar.located_append_line, ?_⟩
  intro text
  have hlines := grammar.located_intercalate 0 (text.splitOn '\n')
  rw [List.intercalate_splitOn] at hlines
  rw [← hlines]
  exact (List.map_id _).symm

end Grammar

end EventText
