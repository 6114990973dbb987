import EventText.Proofs.Template.Span
import EventText.Proofs.Text.Search

/-! The two grammars find the same placeholders. The search runs are greedy and may give characters
back; here they never have to, since what follows a run cannot begin with a character of the run
(`attemptRun_eq`). So the pattern at a bracket is what is read behind the bracket, and the search
goes where the walk goes (`scan_placeholderPattern`). -/

namespace EventText

open Template

open Pattern

def closingPattern : Pattern :=
  .seq (.optional (.seq (.char (· == ':')) (.group 2 (.run isPayloadChar)))) (.char (· == ']'))

def Placeholder.captures (p : Placeholder) : Captures :=
  (1, p.key) :: (p.payload.map (2, ·)).toList

abbrev Matched : Captures → Text → Option (Captures × Text) :=
  fun captures rest => some (captures, rest)

theorem closing_bracket (captures : Captures) (after : Text) :
    closingPattern.attempt Matched captures (']' :: after) = some (captures, after) := rfl

theorem closing_colon (captures : Captures) (body : Text) :
    closingPattern.attempt Matched captures (':' :: body) =
      match body.dropWhile isPayloadChar with
      | ']' :: after => some (captures ++ [(2, body.takeWhile isPayloadChar)], after)
      | _ => none := by
  let next : Text → Option (Captures × Text) := fun rest =>
    (Pattern.char (· == ']')).attempt Matched
      (captures ++ [(2, body.take (body.length - rest.length))]) rest
  -- giving characters back is no use: the next one would have to be the closing bracket
  have hstop : ∀ c rest, isPayloadChar c = true → next (c :: rest) = none := by
    intro c rest hc
    have hne : c ≠ ']' := by rintro rfl; exact absurd hc (by decide)
    simp [next, attempt, hne]
  have hrun : closingPattern.attempt Matched captures (':' :: body) =
      (attemptRun isPayloadChar next body).or none := by
    cases h : attemptRun isPayloadChar next body <;>
      simp [closingPattern, attempt, next, h]
  rw [hrun, attemptRun_eq isPayloadChar next hstop, Option.or_none]
  cases hdrop : body.dropWhile isPayloadChar with
  | nil => rfl
  | cons c after =>
    by_cases hc : c = ']'
    · subst hc
      have htake := take_length_sub_dropWhile isPayloadChar body
      rw [hdrop] at htake
      simpa [next, attempt] using htake
    · simp [next, attempt, hc]

theorem closing_other (captures : Captures) {c : Char} (hb : c ≠ ']') (hc : c ≠ ':')
    (rest : Text) : closingPattern.attempt Matched captures (c :: rest) = none := by
  simp [closingPattern, attempt, hb, hc]

theorem closing_key (captures : Captures) {c : Char} (hc : isKeyChar c = true) (rest : Text) :
    closingPattern.attempt Matched captures (c :: rest) = none :=
  closing_other captures (isKeyChar_ne hc (by decide)) (isKeyChar_ne hc (by decide)) rest

/-- Behind the key the pattern goes on as reading does. -/
theorem closing_dropWhile (text : Text) (hkey : (text.takeWhile isKeyChar).isEmpty = false) :
    closingPattern.attempt Matched [(1, text.takeWhile isKeyChar)] (text.dropWhile isKeyChar) =
      (afterBracket? text).map fun found => (found.1.captures, found.2) := by
  unfold afterBracket?
  rw [if_neg (by simp [hkey])]
  split
  · rename_i after hafter
    rw [hafter, closing_bracket]
    rfl
  · rename_i body hbody
    rw [hbody, closing_colon]
    cases hdrop : body.dropWhile isPayloadChar with
    | nil => rfl
    | cons c after =>
      by_cases hc : c = ']'
      · subst hc
        rfl
      · simp [hc]
  · rename_i hb hp
    cases hdrop : text.dropWhile isKeyChar with
    | nil => rfl
    | cons c rest =>
      refine closing_other _ ?_ ?_ rest
      · rintro rfl
        exact hb rest hdrop
      · rintro rfl
        exact hp rest hdrop

theorem matchFront?_bracket (text : Text) :
    placeholderPattern.matchFront? ('[' :: text) =
      (afterBracket? text).map fun found => (found.1.captures, found.2) := by
  cases text with
  | nil => rfl
  | cons c rest =>
    by_cases hc : isKeyChar c = true
    · let next : Text → Option (Captures × Text) := fun after =>
        closingPattern.attempt Matched [(1, (c :: rest).take ((c :: rest).length - after.length))]
          after
      have hnext : placeholderPattern.matchFront? ('[' :: c :: rest) =
          attemptRun isKeyChar next rest := by
        simp [placeholderPattern, matchFront?, attempt, many, next, closingPattern, hc]
      have hstop : ∀ d after, isKeyChar d = true → next (d :: after) = none :=
        fun d after hd => closing_key _ hd after
      have hdrop : rest.dropWhile isKeyChar = (c :: rest).dropWhile isKeyChar :=
        (List.dropWhile_cons_of_pos hc).symm
      rw [hnext, attemptRun_eq isKeyChar next hstop, hdrop]
      simp only [next, take_length_sub_dropWhile]
      exact closing_dropWhile (c :: rest) (by rw [List.takeWhile_cons_of_pos hc]; rfl)
    · simp [placeholderPattern, matchFront?, attempt, many, afterBracket?, hc]

theorem matchFront?_letter {c : Char} (hc : c ≠ '[') (rest : Text) :
    placeholderPattern.matchFront? (c :: rest) = none := by
  simp [placeholderPattern, matchFront?, attempt, hc]

def Piece.found : Piece → Found
  | letter c => .letter c
  | token p => .hit p.written p.captures

theorem scan_placeholderPattern (text : Text) :
    placeholderPattern.scan text = (bracketPieces text).map Piece.found := by
  induction text using bracketPieces.induct with
  | case1 => simp [bracketPieces, scan]
  | case2 rest p after h ih =>
    have hlength := length_afterBracket? h
    have htext := (afterBracket?_sound h).2
    have hhit : ('[' :: rest).take (('[' :: rest).length - after.length) = p.written := by
      rw [htext, List.length_append, Nat.add_sub_cancel, List.take_left]
    rw [bracketPieces_some h, scan, matchFront?_bracket, h]
    simp only [Option.map_some, List.map_cons, Piece.found, ← ih]
    rw [dif_pos (by simp only [List.length_cons]; omega), hhit]
  | case3 rest h ih =>
    rw [bracketPieces_none h, scan, matchFront?_bracket, h]
    simp only [Option.map_none, List.map_cons, Piece.found, ← ih]
  | case4 c rest hc ih =>
    rw [bracketPieces_letter hc, scan, matchFront?_letter hc]
    simp only [List.map_cons, Piece.found, ← ih]

theorem Piece.piece_found (piece : Piece) : piece.found.piece = piece := by
  cases piece with
  | letter c => rfl
  | token p =>
    obtain ⟨key, payload⟩ := p
    cases payload <;> rfl

theorem patternPieces_eq (text : Text) : patternPieces text = bracketPieces text := by
  rw [patternPieces, scan_placeholderPattern, List.map_map]
  exact (List.map_congr_left fun piece _ => piece.piece_found).trans (List.map_id _)

/-- The matches of a search as placeholders, with the bytes at which each begins and ends, the
first found part standing at `start`. -/
def Found.locatedFrom (start : Nat) : List Found → List (Nat × Nat × Placeholder)
  | [] => []
  | .letter c :: rest => locatedFrom (start + c.utf8Size) rest
  | .hit text captures :: rest =>
    (start, start + text.utf8Length, ⟨(captures.get? 1).getD [], captures.get? 2⟩) ::
      locatedFrom (start + text.utf8Length) rest

theorem Found.locatedFrom_found (ps : List Piece) (start : Nat) :
    Found.locatedFrom start (ps.map Piece.found) = Template.locatedFrom start ps := by
  induction ps generalizing start with
  | nil => rfl
  | cons piece rest ih =>
    cases piece with
    | letter c => exact ih _
    | token p =>
      have hpiece := Piece.piece_found (.token p)
      simp only [Piece.found, Found.piece, Piece.token.injEq] at hpiece
      simp only [List.map_cons, Piece.found, Found.locatedFrom, Template.locatedFrom, hpiece, ih]

/-- Searching for the pattern and walking from bracket to bracket give the same placeholders at the
same bytes, and there stand their written forms. -/
theorem located_scan_eq_located_brackets (text : Text) :
    Found.locatedFrom 0 (placeholderPattern.scan text) = located (Grammar.brackets.pieces text) ∧
    located (Grammar.pattern.pieces text) = located (Grammar.brackets.pieces text) ∧
    ∀ first last p, (first, last, p) ∈ located (Grammar.brackets.pieces text) →
      ∃ before after, text = before ++ p.written ++ after ∧
        first = before.utf8Length ∧ last = first + p.written.utf8Length := by
  refine ⟨?_, ?_, ?_⟩
  · rw [scan_placeholderPattern, Found.locatedFrom_found]
    rfl
  · exact congrArg located (patternPieces_eq text)
  · intro first last p hmem
    obtain ⟨before, after, htext, hspan⟩ := slice_of_mem_located hmem
    exact ⟨before, after, (written_bracketPieces text).symm.trans htext, hspan⟩

namespace Grammar

theorem pieces_eq_bracketPieces (grammar : Grammar) (text : Text) :
    grammar.pieces text = bracketPieces text := by
  cases grammar with
  | pattern => exact patternPieces_eq text
  | brackets => rfl

theorem written_pieces (grammar : Grammar) (text : Text) : written (grammar.pieces text) = text := by
  rw [pieces_eq_bracketPieces, written_bracketPieces]

theorem cut_pieces (grammar : Grammar) (text : Text) : Cut (grammar.pieces text) := by
  rw [pieces_eq_bracketPieces]
  exact cut_bracketPieces text

theorem pieces_written (grammar : Grammar) {ps : List Piece} (h : Cut ps) :
    grammar.pieces (written ps) = ps := by
  rw [pieces_eq_bracketPieces, h.bracketPieces_written]

end Grammar

end EventText
