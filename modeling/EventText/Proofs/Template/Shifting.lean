import EventText.Proofs.Bytes.Weaving
import EventText.Proofs.Template.Rewriting

/-! Placeholders in a rewritten text. A rewriting puts in the answers of a list, one for each
placeholder (`spliceM_eq_map_putIn`). When the answers are inert, the placeholders that got none are
found again and no others are, and each stands where it stood, moved by what the answers before it
have added or taken away (`located_rewriteM`). -/

namespace EventText.Template

def putIn : List (Option Text) → List Piece → List Piece
  | _, [] => []
  | answers, .letter c :: rest => .letter c :: putIn answers rest
  | [], .token p :: rest => .token p :: putIn [] rest
  | none :: answers, .token p :: rest => .token p :: putIn answers rest
  | some text :: answers, .token _ :: rest => text.map .letter ++ putIn answers rest

def shiftSpan (shift : Int) (span : Nat × Nat × Placeholder) : Int × Int × Placeholder :=
  (span.1 + shift, span.2.1 + shift, span.2.2)

/-- The spans of the placeholders that got no answer, in the text with the answers put in. The answers
before the first of the spans have moved the text by `shift`. -/
def keptSpans (shift : Int) :
    List (Nat × Nat × Placeholder) → List (Option Text) → List (Int × Int × Placeholder)
  | span :: spans, none :: answers => shiftSpan shift span :: keptSpans shift spans answers
  | span :: spans, some text :: answers =>
    keptSpans (shift + text.utf8Length - (span.2.1 - span.1)) spans answers
  | _, _ => []

section Lawful

variable {m : Type → Type} [Monad m] [LawfulMonad m]

theorem spliceM_eq_map_putIn (offer : Placeholder → m (Option Text)) (ps : List Piece) :
    spliceM offer ps = (putIn · ps) <$> (placeholders ps).mapM offer := by
  induction ps with
  | nil => simp [spliceM, placeholders, putIn]
  | cons piece rest ih =>
    cases piece with
    | letter c => simp [spliceM, ih, putIn]
    | token p =>
      simp only [spliceM, ih, placeholders_token, List.mapM_cons, map_bind, bind_map_left, map_pure]
      refine bind_congr fun answer => bind_congr fun answers => ?_
      cases answer <;> rfl

end Lawful

theorem spliced_putIn {answers : List (Option Text)}
    (h : ∀ text, some text ∈ answers → Inert text) (ps : List Piece) :
    Spliced (fun _ answer => ∀ text ∈ answer, Inert text) ps (putIn answers ps) := by
  fun_induction putIn answers ps with
  | case1 => exact .nil
  | case2 answers c rest ih => exact .letter (ih h)
  | case3 p rest ih => exact .keep (by simp) (ih h)
  | case4 answers p rest ih =>
    exact .keep (by simp) (ih fun text htext => h text (List.mem_cons_of_mem _ htext))
  | case5 text answers p rest ih =>
    refine .put ?_ (ih fun text htext => h text (List.mem_cons_of_mem _ htext))
    intro answer hanswer
    obtain rfl := Option.mem_some.1 hanswer
    exact h _ List.mem_cons_self

/-- The pieces with the answers put in begin at byte `moved`, and those without them at `start`. -/
theorem locatedFrom_putIn {answers : List (Option Text)} {ps : List Piece}
    (h : answers.length = (placeholders ps).length) {start moved : Nat} {shift : Int}
    (hmoved : (moved : Int) = start + shift) :
    (locatedFrom moved (putIn answers ps)).map (shiftSpan 0) =
      keptSpans shift (locatedFrom start ps) answers := by
  fun_induction putIn answers ps generalizing start moved shift with
  | case1 answers =>
    obtain rfl : answers = [] := List.length_eq_zero_iff.1 h
    rfl
  | case2 answers c rest ih => exact ih h (by push_cast; omega)
  | case3 p rest ih => simp at h
  | case4 answers p rest ih =>
    have hlength : answers.length = (placeholders rest).length := by simpa using h
    have hspan : shiftSpan 0 (moved, moved + p.written.utf8Length, p) =
        shiftSpan shift (start, start + p.written.utf8Length, p) := by
      simp only [shiftSpan, Prod.mk.injEq, and_true]
      omega
    rw [locatedFrom, List.map_cons, ih hlength, hspan]
    · rfl
    · push_cast
      omega
  | case5 text answers p rest ih =>
    have hlength : answers.length = (placeholders rest).length := by simpa using h
    rw [locatedFrom_append, locatedFrom_letters, List.nil_append, written_letters]
    apply ih hlength
    push_cast
    omega

theorem length_mapM_run {σ : Type} (offer : Placeholder → StateM σ (Option Text))
    (ps : List Placeholder) (s : σ) : ((ps.mapM offer).run s).1.length = ps.length := by
  induction ps generalizing s with
  | nil => rfl
  | cons p rest ih =>
    rw [List.mapM_cons]
    exact congrArg (· + 1) (ih _)

/-- Where the answers to the placeholders of a text are inert, each of them not empty, without an
opening bracket, and with a first character that no key, colon or closing bracket could be, the
placeholders of the rewritten text are those of the text that got no answer, as they were and in their
order, and each is moved by the bytes that the answers before it have added. -/
theorem located_rewriteM {σ : Type} (grammar : Grammar)
    (offer : Placeholder → StateM σ (Option Text)) (s : σ) (text : Text) :
    let spans := located (grammar.pieces text)
    let answers := (((spans.map (·.2.2)).mapM offer).run s).1
    let rewritten := ((rewriteM offer (grammar.pieces text)).run s).1
    answers.length = spans.length ∧
    ((∀ answer, some answer ∈ answers → answer ≠ [] ∧ '[' ∉ answer ∧
        ∀ c ∈ answer.head?, isKeyChar c = false ∧ c ≠ ':' ∧ c ≠ ']') →
      (located (grammar.pieces rewritten)).map (shiftSpan 0) = keptSpans 0 spans answers) := by
  intro spans answers rewritten
  have hfound : spans.map (·.2.2) = placeholders (grammar.pieces text) := placeholders_locatedFrom 0 _
  have hlength : answers.length = spans.length :=
    (length_mapM_run offer _ s).trans (List.length_map _)
  refine ⟨hlength, ?_⟩
  intro hanswers
  have hinert : ∀ answer, some answer ∈ answers → Inert answer := by
    intro answer hanswer
    obtain ⟨hne, hbracket, hhead⟩ := hanswers answer hanswer
    obtain ⟨c, rest, rfl⟩ := List.exists_cons_of_ne_nil hne
    exact ⟨hbracket, c, rest, rfl, hhead c rfl⟩
  have hrewritten : rewritten = written (putIn answers (grammar.pieces text)) := by
    simp only [rewritten, answers, hfound, rewriteM_eq_map_spliceM, spliceM_eq_map_putIn,
      StateT.run_map]
    rfl
  have hcut : Cut (putIn answers (grammar.pieces text)) := by
    apply (spliced_putIn hinert _).cut (grammar.cut_pieces text)
    exact fun p _ answer hanswer => hanswer answer rfl
  rw [hrewritten, grammar.pieces_written hcut]
  apply locatedFrom_putIn _ (by simp)
  rw [hlength, ← hfound, List.length_map]

def answerOther (_ : Placeholder) : StateM Bool (Option Text) := do
  let turn ← get
  set (!turn)
  return if turn then some "→]\n".toList else none

/-- The first answer takes the place of a payload with a bracket in it, and stands before a bracket that
opens nothing. -/
theorem located_rewriteM_answerOther :
    let text := "é[A][b:x[y][d[E][f]".toList
    let spans := located (Grammar.brackets.pieces text)
    let answers := (((spans.map (·.2.2)).mapM answerOther).run false).1
    (∀ answer, some answer ∈ answers → answer ≠ [] ∧ '[' ∉ answer ∧
      ∀ c ∈ answer.head?, isKeyChar c = false ∧ c ≠ ':' ∧ c ≠ ']') ∧
    ((rewriteM answerOther (Grammar.brackets.pieces text)).run false).1 =
      "é[A]→]\n[d[E]→]\n".toList ∧
    (located (Grammar.brackets.pieces "é[A]→]\n[d[E]→]\n".toList)).map (shiftSpan 0) =
      [(2, 5, ⟨['A'], none⟩), (12, 15, ⟨['E'], none⟩)] := by
  intro text spans answers
  have hpieces : Grammar.brackets.pieces text =
      [.letter 'é', .token ⟨['A'], none⟩, .token ⟨['b'], some "x[y".toList⟩, .letter '[', .letter 'd',
        .token ⟨['E'], none⟩, .token ⟨['f'], none⟩] :=
    bracketPieces_eq_iff.2 ⟨by decide, by decide⟩
  have hspans : spans = [(2, 5, ⟨['A'], none⟩), (5, 12, ⟨['b'], some "x[y".toList⟩),
      (14, 17, ⟨['E'], none⟩), (17, 20, ⟨['f'], none⟩)] := by
    simp only [spans, hpieces]
    decide
  have hanswers : answers = [none, some "→]\n".toList, none, some "→]\n".toList] := by
    simp only [answers, hspans]
    rfl
  have hinert : ∀ answer, some answer ∈ answers → answer ≠ [] ∧ '[' ∉ answer ∧
      ∀ c ∈ answer.head?, isKeyChar c = false ∧ c ≠ ':' ∧ c ≠ ']' := by
    intro answer hanswer
    obtain rfl : answer = "→]\n".toList := by simpa [hanswers] using hanswer
    exact ⟨by decide, by decide, fun c hc => by cases hc; decide⟩
  have hrewritten : ((rewriteM answerOther (Grammar.brackets.pieces text)).run false).1 =
      "é[A]→]\n[d[E]→]\n".toList := by
    rw [hpieces]
    rfl
  have hlocated := (located_rewriteM .brackets answerOther false text).2 hinert
  refine ⟨hinert, hrewritten, ?_⟩
  rw [← hrewritten, hlocated]
  change keptSpans 0 spans answers = _
  rw [hspans, hanswers]
  decide

end EventText.Template
