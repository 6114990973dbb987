import EventText.Draw.Script
import EventText.Proofs.Bytes.Marking
import EventText.Proofs.Bytes.Spans
import EventText.Proofs.Resolver.Answers
import EventText.Proofs.Resolver.Total

/-! Resolving step by step as it is carried out, where each step that could fail says so: texts are cut
at bytes, names and items are looked up by number, items are taken out by number. No step fails
whatever the text, the names and the source are, and the result is the resolved text
(`resolveAt_total`). -/

namespace EventText

open Template

namespace Template

variable {m : Type → Type} [Monad m]

/-- Rewrites a text, where `done` is the result up to byte `cursor`. What lies behind the cursor is cut
out when the next answer is put in. -/
def rewriteAt (text : Text) (offer : Placeholder → m (Option Text)) (cursor : Nat) (done : Text) :
    List (Nat × Nat × Placeholder) → m (Option Text)
  | [] => return (text.dropBytes? cursor).map (done ++ ·)
  | (start, stop, p) :: rest => do
    match ← offer p with
    | none => rewriteAt text offer cursor done rest
    | some answer =>
      match text.slice? cursor start with
      | none => return none
      | some gap => rewriteAt text offer stop (done ++ gap ++ answer) rest

section Lawful

variable [LawfulMonad m]

/-- The text is `kept`, which lies before the cursor, then `pending`, which is not yet written, and
then the pieces still to come. -/
theorem rewriteAt_locatedFrom (offer : Placeholder → m (Option Text)) (kept pending done : Text)
    (ps : List Piece) :
    rewriteAt (kept ++ pending ++ written ps) offer kept.utf8Length done
        (locatedFrom (kept ++ pending).utf8Length ps) =
      (fun after => some (done ++ pending ++ after)) <$> rewriteM offer ps := by
  induction ps generalizing kept pending done with
  | nil =>
    simp only [written_nil, List.append_nil, locatedFrom, rewriteAt, rewriteM,
      Text.dropBytes?_append, map_pure, Option.map_some]
  | cons piece rest ih =>
    cases piece with
    | letter c =>
      have hrest := ih kept (pending ++ [c]) done
      rw [← List.append_assoc, Text.utf8Length_append] at hrest
      simpa [locatedFrom, rewriteM] using hrest
    | token p =>
      -- a placeholder without an answer stays pending
      have hskip := ih kept (pending ++ p.written) done
      have hput (answer : Text) := ih (kept ++ pending ++ p.written) [] (done ++ pending ++ answer)
      rw [← List.append_assoc, Text.utf8Length_append] at hskip
      simp only [List.append_nil, Text.utf8Length_append _ p.written] at hput
      have hgap : Text.slice? (kept ++ pending ++ (p.written ++ written rest)) kept.utf8Length
          (kept ++ pending).utf8Length = some pending :=
        Text.slice?_eq_some_iff.2 ⟨kept, _, rfl, rfl, Text.utf8Length_append _ _⟩
      rw [locatedFrom, written_token, rewriteAt, rewriteM]
      simp only [map_bind]
      refine bind_congr fun answer => ?_
      cases answer with
      | none => simpa using hskip
      | some answer =>
        simp only [hgap]
        simpa using hput answer

theorem rewriteAt_located (grammar : Grammar) (offer : Placeholder → m (Option Text))
    (text : Text) :
    rewriteAt text offer 0 [] (located (grammar.pieces text)) =
      some <$> rewriteM offer (grammar.pieces text) := by
  have hall := rewriteAt_locatedFrom offer [] [] [] (grammar.pieces text)
  rw [List.nil_append, List.nil_append, grammar.written_pieces] at hall
  exact hall

end Lawful

/-- Rewriting in another monad, into which the answers are carried. -/
theorem rewriteM_comap {n : Type → Type} [Monad n] [LawfulMonad n] (carry : ∀ {α}, n α → m α)
    (hpure : ∀ {α} (a : α), carry (pure a) = pure a)
    (hbind : ∀ {α β} (x : n α) (f : α → n β), carry (x >>= f) = carry x >>= fun a => carry (f a))
    (offer : Placeholder → n (Option Text)) (ps : List Piece) :
    rewriteM (fun p => carry (offer p)) ps = carry (rewriteM offer ps) := by
  induction ps with
  | nil => exact (hpure []).symm
  | cons piece rest ih =>
    cases piece with
    | letter c => simp only [rewriteM, ih, hbind, hpure]
    | token p => simp only [rewriteM, ih, hbind, hpure]

end Template

section Steps

def Participants.nameAt (p : Participants) (i : Nat) : OptionT Draw Text :=
  p.names[i]?.getM

def Participants.pickAt (p : Participants) : OptionT Draw Text := do
  p.nameAt (← Draw.coin).toNat

def Participants.pairAt (p : Participants) : OptionT Draw (Text × Text) := do
  let first := (← Draw.coin).toNat
  if 1 < first then
    failure
  return (← p.nameAt first, ← p.nameAt (1 - first))

def removeAt? (items : List Text) (i : Nat) : Option (Text × List Text) :=
  items[i]?.map (·, items.eraseIdx i)

def resolveChoiceAt (payload : Text) : OptionT Draw (Option Text) := do
  let items := splitItems payload
  if items.isEmpty then
    return none
  let i ← Draw.indexBelow items.length
  let (selected, others) ← (removeAt? items i).getM
  return some (bold selected ++ consolationLine others)

theorem Participants.pickAt_eq (p : Participants) : p.pickAt = OptionT.lift p.pick := by
  have hname (coin : Bool) :
      p.nameAt coin.toNat = pure (if coin then p.second else p.first) := by cases coin <;> rfl
  simp only [pickAt, pick, hname]
  rfl

theorem Participants.pairAt_eq (p : Participants) : p.pairAt = OptionT.lift p.pair := by
  have hpair (coin : Bool) : (do
      if 1 < coin.toNat then
        failure
      return (← p.nameAt coin.toNat, ← p.nameAt (1 - coin.toNat)) : OptionT Draw (Text × Text)) =
      pure (if coin then (p.second, p.first) else (p.first, p.second)) := by
    cases coin <;> rfl
  unfold pairAt pair
  simp only [hpair]
  rfl

theorem resolveChoiceAt_eq (payload : Text) :
    resolveChoiceAt payload = OptionT.lift (resolveChoice payload) := by
  have hremove (i : Fin (splitItems payload).length) : (do
      let (selected, others) ← (removeAt? (splitItems payload) i).getM
      return some (bold selected ++ consolationLine others) : OptionT Draw (Option Text)) =
      pure (some (announce (splitItems payload) i)) := by
    rw [removeAt?, List.getElem?_eq_getElem i.isLt, announce_eq]
    rfl
  unfold resolveChoiceAt resolveChoice
  simp only [hremove]
  split
  · rfl
  · rfl

end Steps

section Passes

def Template.passAt {m : Type → Type} [Monad m] (grammar : Grammar)
    (offer : Placeholder → m (Option Text)) (text : Text) : m (Option Text) :=
  match grammar.spans? text with
  | none => return none
  | some spans => rewriteAt text offer 0 [] spans

theorem Template.passAt_eq {m : Type → Type} [Monad m] [LawfulMonad m] (grammar : Grammar)
    (offer : Placeholder → m (Option Text)) (text : Text) :
    passAt grammar offer text = some <$> rewriteM offer (grammar.pieces text) := by
  rw [passAt, grammar.spans?_eq]
  exact rewriteAt_located grammar offer text

def carryState {σ α : Type} (x : StateT σ Draw α) : StateT σ (OptionT Draw) α :=
  fun s => OptionT.lift (x.run s)

theorem carryState_bind {σ α β : Type} (x : StateT σ Draw α) (f : α → StateT σ Draw β) :
    carryState (x >>= f) = carryState x >>= fun a => carryState (f a) :=
  funext fun s => OptionT.lift_bind (x.run s) fun q => (f q.1).run q.2

/-- A pass whose answers do not fail is the rewriting of the pieces. -/
theorem Template.run'_passAt {σ : Type} (grammar : Grammar)
    {offerAt : Placeholder → StateT σ (OptionT Draw) (Option Text)}
    {offer : Placeholder → StateT σ Draw (Option Text)}
    (hoffer : ∀ p, offerAt p = carryState (offer p)) (text : Text) (s : σ) :
    ((passAt grammar offerAt text).run' s >>= Option.getM) =
      OptionT.lift ((rewriteM offer (grammar.pieces text)).run' s) := by
  rw [passAt_eq, funext hoffer,
    rewriteM_comap carryState (fun _ => rfl) carryState_bind offer]
  generalize rewriteM offer (grammar.pieces text) = x
  have hcarry : (carryState x).run s = OptionT.lift (x.run s) := rfl
  simp only [StateT.run'_eq, map_eq_pure_bind, StateT.run_bind, StateT.run_pure, hcarry, bind_assoc, pure_bind,
    OptionT.lift_bind]
  rfl

end Passes

namespace Resolver

def answerLinkedAt (r : Resolver) (p : Placeholder) :
    StateT (Option (Text × Text)) (OptionT Draw) (Option Text) :=
  if p.isBare && (p.hasKey ['A'] || p.hasKey ['B']) then do
    let pair ← match ← get with
      | some pair => pure pair
      | none => r.participants.pairAt
    set (some pair)
    return some (bold (if p.hasKey ['A'] then pair.1 else pair.2))
  else
    return none

def answerPersonAt (r : Resolver) (preset : Preset) (p : Placeholder) :
    StateT (List (Text × Text)) (OptionT Draw) (Option Text) :=
  if p.isBare && preset.role? p.key == some .person then do
    let person ← match (← get).lookup p.key.asciiUpper with
      | some person => pure person
      | none => r.participants.pickAt
    modify ((p.key.asciiUpper, person) :: ·)
    return some (bold person ++ (preset.suffix? p.key).getD [])
  else
    return none

def answerChoiceAt (preset : Preset) (p : Placeholder) : OptionT Draw (Option Text) :=
  match p.payload with
  | some payload =>
    if preset.role? p.key == some .choice then resolveChoiceAt payload else return none
  | none => return none

theorem answerLinkedAt_eq (r : Resolver) (p : Placeholder) :
    r.answerLinkedAt p = carryState (r.answerLinked p) := by
  unfold answerLinkedAt answerLinked
  rw [Participants.pairAt_eq]
  split
  · funext drawn
    cases drawn with
    | none => rfl
    | some pair => rfl
  · rfl

theorem answerPersonAt_eq (r : Resolver) (preset : Preset) (p : Placeholder) :
    r.answerPersonAt preset p = carryState (r.answerPerson preset p) := by
  unfold answerPersonAt answerPerson
  rw [Participants.pickAt_eq]
  split
  · rw [carryState_bind]
    refine congrArg (fun next => get >>= next) (funext fun drawn => ?_)
    cases drawn.lookup p.key.asciiUpper with
    | none => rfl
    | some person => rfl
  · rfl

theorem answerChoiceAt_eq (preset : Preset) (p : Placeholder) :
    answerChoiceAt preset p = OptionT.lift (answerChoice preset p) := by
  unfold answerChoiceAt answerChoice
  cases p.payload with
  | none => rfl
  | some payload =>
    simp only [resolveChoiceAt_eq]
    split <;> rfl

/-- The passes, none of whose cuts and lookups is taken for granted. `food` says whether the labels of
food are marked in the end. -/
def resolveAt (r : Resolver) (preset : Preset) (food : Bool) (description : Text) :
    OptionT Draw Text := do
  let text ← (passAt r.grammar r.answerLinkedAt description).run' none >>= Option.getM
  let text ← (passAt r.grammar (r.answerPersonAt preset) text).run' [] >>= Option.getM
  let text ← passAt r.grammar (answerChoiceAt preset) text >>= Option.getM
  let text ← (passAt (m := Id) r.grammar (fun p => pure (answerField preset p)) text).run.getM
  if food then (annotateFoodAt? text).getM else return text

theorem resolveAt_eq (r : Resolver) (preset : Preset) (food : Bool)
    (hannotate : preset.annotate = if food then some annotateFood else none) (text : Text) :
    r.resolveAt preset food text = OptionT.lift (r.resolve preset text) := by
  have hchoice (text : Text) : (passAt r.grammar (answerChoiceAt preset) text >>= Option.getM) =
      OptionT.lift (r.choicePass preset text) := by
    rw [passAt_eq, funext (answerChoiceAt_eq preset),
      rewriteM_comap (n := Draw) OptionT.lift (fun _ => rfl) OptionT.lift_bind (answerChoice preset)]
    exact (bind_map_left _ _ _).trans (bind_pure _)
  have hfield (text : Text) :
      (passAt (m := Id) r.grammar (fun p => pure (answerField preset p)) text).run =
        some (r.fieldPass preset text) := by
    rw [passAt_eq]
    rfl
  unfold resolveAt resolve substitute
  simp only [run'_passAt r.grammar r.answerLinkedAt_eq, hchoice, hfield,
    run'_passAt r.grammar (r.answerPersonAt_eq preset), annotateFoodAt?_eq]
  simp only [Option.getM, pure_bind, OptionT.lift_bind, bind_assoc, hannotate]
  cases food with
  | false => rfl
  | true => rfl

/-- Resolving comes to its end for every text and every source: all its cuts and lookups succeed, no
index below zero is asked for, and the result is the resolved text. The placeholders left in a text can
all be cut out of it. -/
theorem resolveAt_total {σ : Type} [Source σ] (r : Resolver) (preset : Preset) (food : Bool)
    (hannotate : preset.annotate = if food then some annotateFood else none) (text : Text)
    (source : σ) :
    (∃ resolved, ((r.resolveAt preset food text).run.run source).value = some (some resolved) ∧
      ((r.resolve preset text).run source).value = some resolved) ∧
      r.grammar.unresolvedAt? text = some (r.unresolved text) := by
  obtain ⟨resolved, hresolved⟩ := (answerable_resolve r preset text).exists_value source
  refine ⟨⟨resolved, ?_, hresolved⟩, r.grammar.unresolvedAt?_eq text⟩
  have hrun : (r.resolveAt preset food text).run = some <$> r.resolve preset text := by
    rw [resolveAt_eq r preset food hannotate, OptionT.run_lift, map_eq_pure_bind]
  rw [hrun, Draw.value_run_map, hresolved]
  rfl

/-- Letters of several bytes stand before, between and inside the placeholders. -/
theorem resolveAt_total_letters :
    let r : Resolver := { grammar := .brackets }
    let preset : Preset := { label := ['é'], choiceKeys := [['K']], annotate := some annotateFood }
    let text := "é[Kéb: a][K: é, 😀,][B]<b>é</b>[[A".toList
    preset.annotate = (if true then some annotateFood else none) ∧
    (∃ resolved, ((r.resolveAt preset true text).run.run (⟨[1]⟩ : Script)).value =
        some (some resolved) ∧
      ((r.resolve preset text).run (⟨[1]⟩ : Script)).value = some resolved) ∧
      r.grammar.unresolvedAt? text = some (r.unresolved text) :=
  ⟨rfl, resolveAt_total _ _ true rfl _ _⟩

end Resolver

end EventText
