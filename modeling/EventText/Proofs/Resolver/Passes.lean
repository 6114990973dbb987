import EventText.Proofs.Template.Recognition
import EventText.Proofs.Template.Rewriting
import EventText.Resolver

/-! The two passes that keep what they draw. Each draws inside the rewriting, for the first
placeholder that needs it; drawing everything ahead and then rewriting without effects is the same
computation (`linkedPass_eq`, `personPass_eq`). -/

namespace EventText

open Template

/-- A bare `A` or `B`. -/
def Placeholder.isLinked (p : Placeholder) : Bool :=
  p.isBare && (p.hasKey ['A'] || p.hasKey ['B'])

def Preset.isPerson (preset : Preset) (p : Placeholder) : Bool :=
  p.isBare && preset.role? p.key == some .person

namespace Resolver

section State

variable {σ : Type} {m : Type → Type} [Monad m] [LawfulMonad m]

theorem run'_rewriteM_letter (offer : Placeholder → StateT σ m (Option Text)) (c : Char)
    (rest : List Piece) (s : σ) :
    (rewriteM offer (.letter c :: rest)).run' s = (c :: ·) <$> (rewriteM offer rest).run' s := by
  simp [rewriteM, StateT.run'_eq]

theorem run'_rewriteM_token (offer : Placeholder → StateT σ m (Option Text)) (p : Placeholder)
    (rest : List Piece) (s : σ) :
    (rewriteM offer (.token p :: rest)).run' s =
      (offer p).run s >>= fun answer =>
        (answer.1.getD p.written ++ ·) <$> (rewriteM offer rest).run' answer.2 := by
  simp [rewriteM, StateT.run'_eq]

end State

def linkedAnswer (pair : Text × Text) (p : Placeholder) : Option Text :=
  if p.isLinked then some (bold (if p.hasKey ['A'] then pair.1 else pair.2)) else none

def drawPair (r : Resolver) (ps : List Piece) : Draw (Text × Text) :=
  if (placeholders ps).any Placeholder.isLinked then r.participants.pair
  else return (r.participants.first, r.participants.second)

theorem run_answerLinked (r : Resolver) (p : Placeholder) (drawn : Option (Text × Text)) :
    (r.answerLinked p).run drawn =
      if p.isLinked then do
        let pair ← drawn.elim r.participants.pair pure
        return (linkedAnswer pair p, some pair)
      else return (none, drawn) := by
  by_cases h : p.isLinked
  · have h' := h
    unfold Placeholder.isLinked at h'
    cases drawn <;> simp [answerLinked, linkedAnswer, h, h']
  · have h' := h
    unfold Placeholder.isLinked at h'
    simp [answerLinked, h, h']

theorem run'_answerLinked_some (r : Resolver) (pair : Text × Text) (ps : List Piece) :
    (rewriteM r.answerLinked ps).run' (some pair) = pure (rewrite (linkedAnswer pair) ps) := by
  induction ps with
  | nil => rfl
  | cons piece rest ih =>
    cases piece with
    | letter c => rw [run'_rewriteM_letter, ih, map_pure, rewrite_letter]
    | token p =>
      rw [run'_rewriteM_token, run_answerLinked, rewrite_token]
      by_cases h : p.isLinked
      · simp only [h, ↓reduceIte, Option.elim_some, pure_bind, ih, map_pure]
      · simp only [h, Bool.false_eq_true, ↓reduceIte, pure_bind, ih, map_pure, linkedAnswer]

theorem run'_answerLinked_none (r : Resolver) (ps : List Piece) :
    (rewriteM r.answerLinked ps).run' none =
      (fun pair => rewrite (linkedAnswer pair) ps) <$> r.drawPair ps := by
  induction ps with
  | nil => rfl
  | cons piece rest ih =>
    cases piece with
    | letter c =>
      rw [run'_rewriteM_letter, ih, Functor.map_map]
      rfl
    | token p =>
      rw [run'_rewriteM_token, run_answerLinked]
      by_cases h : p.isLinked
      · have hdraw : r.drawPair (.token p :: rest) = r.participants.pair := by simp [drawPair, h]
        simp only [h, hdraw, ↓reduceIte, Option.elim_none, bind_pure_comp, bind_map_left,
          run'_answerLinked_some, map_pure, rewrite_token]
      · have hdraw : r.drawPair (.token p :: rest) = r.drawPair rest := by simp [drawPair, h]
        simp only [h, hdraw, Bool.false_eq_true, ↓reduceIte, pure_bind, ih, Functor.map_map,
          rewrite_token, linkedAnswer]

/-- The pair is drawn once, exactly when the text has a bare `A` or `B`. -/
theorem linkedPass_eq (r : Resolver) (text : Text) :
    r.linkedPass text =
      (fun pair => rewrite (linkedAnswer pair) (r.grammar.pieces text)) <$>
        r.drawPair (r.grammar.pieces text) :=
  run'_answerLinked_none r _

def nameFor (persons : List (Text × Text)) (key : Text) : Text :=
  (persons.lookup key.asciiUpper).getD []

def personAnswer (preset : Preset) (persons : List (Text × Text)) (p : Placeholder) : Option Text :=
  if preset.isPerson p then
    some (bold (nameFor persons p.key) ++ (preset.suffix? p.key).getD [])
  else none

/-- The distinct person keys among the pieces that were not drawn yet, in order of appearance. -/
def openKeys (preset : Preset) (drawn : List (Text × Text)) (ps : List Piece) : List Text :=
  ((((placeholders ps).filter preset.isPerson).map (·.key.asciiUpper)).filter
    fun key => (drawn.lookup key).isNone).eraseDups

def drawPersons (r : Resolver) : List Text → Draw (List (Text × Text))
  | [] => return []
  | key :: keys => do
    let person ← r.participants.pick
    let persons ← drawPersons r keys
    return (key, person) :: persons

theorem run_answerPerson (r : Resolver) (preset : Preset) (p : Placeholder)
    (drawn : List (Text × Text)) :
    (r.answerPerson preset p).run drawn =
      if preset.isPerson p then do
        let person ← (drawn.lookup p.key.asciiUpper).elim r.participants.pick pure
        return (some (bold person ++ (preset.suffix? p.key).getD []),
          (p.key.asciiUpper, person) :: drawn)
      else return (none, drawn) := by
  by_cases h : preset.isPerson p
  · have h' := h
    unfold Preset.isPerson at h'
    cases hl : drawn.lookup p.key.asciiUpper <;>
      simp [answerPerson, h, h', hl]
  · have h' := h
    unfold Preset.isPerson at h'
    simp only [answerPerson, h, h', Bool.false_eq_true, ↓reduceIte]
    rfl

theorem personAnswer_congr (preset : Preset) {a b : List (Text × Text)}
    (h : ∀ key, a.lookup key = b.lookup key) : personAnswer preset a = personAnswer preset b := by
  funext p
  simp only [personAnswer, nameFor, h]

theorem mem_of_lookup {drawn : List (Text × Text)} {key person : Text}
    (h : drawn.lookup key = some person) : (key, person) ∈ drawn := by
  obtain ⟨before, after, rfl, -⟩ := List.lookup_eq_some_iff.1 h
  exact List.mem_append_right _ (List.mem_cons_self ..)

theorem lookup_known {drawn : List (Text × Text)} {key person : Text}
    (h : drawn.lookup key = some person) (k : Text) :
    ((key, person) :: drawn).lookup k = drawn.lookup k := by
  by_cases hk : k = key
  · rw [hk, h, List.lookup_cons_self]
  · rw [List.lookup_cons, beq_false_of_ne hk]

/-- A name for a new key may stand before or behind the others. -/
theorem lookup_new {drawn : List (Text × Text)} {key : Text} (h : drawn.lookup key = none)
    (person : Text) (persons : List (Text × Text)) (k : Text) :
    ((key, person) :: drawn ++ persons).lookup k =
      (drawn ++ (key, person) :: persons).lookup k := by
  by_cases hk : k = key
  · simp [hk, List.lookup_append, h]
  · rw [List.cons_append, List.lookup_cons, List.lookup_append, List.lookup_append,
      List.lookup_cons, beq_false_of_ne hk]

theorem personAnswer_known (preset : Preset) {drawn : List (Text × Text)} {key person : Text}
    (h : drawn.lookup key = some person) (persons : List (Text × Text)) :
    personAnswer preset ((key, person) :: drawn ++ persons) =
      personAnswer preset (drawn ++ persons) := by
  refine personAnswer_congr preset fun k => ?_
  rw [List.lookup_append, List.lookup_append, lookup_known h]

theorem personAnswer_new (preset : Preset) {drawn : List (Text × Text)} {key : Text}
    (h : drawn.lookup key = none) (person : Text) (persons : List (Text × Text)) :
    personAnswer preset ((key, person) :: drawn ++ persons) =
      personAnswer preset (drawn ++ (key, person) :: persons) :=
  personAnswer_congr preset (lookup_new h person persons)

theorem openKeys_token_other {preset : Preset} {p : Placeholder} (h : preset.isPerson p = false)
    (drawn : List (Text × Text)) (rest : List Piece) :
    openKeys preset drawn (.token p :: rest) = openKeys preset drawn rest := by
  simp [openKeys, h]

theorem openKeys_token_known {preset : Preset} {p : Placeholder} (h : preset.isPerson p = true)
    {drawn : List (Text × Text)} {person : Text}
    (hdrawn : drawn.lookup p.key.asciiUpper = some person) (rest : List Piece) :
    openKeys preset drawn (.token p :: rest) =
      openKeys preset ((p.key.asciiUpper, person) :: drawn) rest := by
  simp only [openKeys, lookup_known hdrawn]
  simp [h, hdrawn]

theorem openKeys_token_new {preset : Preset} {p : Placeholder} (h : preset.isPerson p = true)
    {drawn : List (Text × Text)} (hdrawn : drawn.lookup p.key.asciiUpper = none) (person : Text)
    (rest : List Piece) :
    openKeys preset drawn (.token p :: rest) =
      p.key.asciiUpper :: openKeys preset ((p.key.asciiUpper, person) :: drawn) rest := by
  simp only [openKeys, placeholders_token, List.filter_cons_of_pos h, List.map_cons]
  rw [List.filter_cons_of_pos (by simp [hdrawn]), List.eraseDups_cons, List.filter_filter]
  congr 3
  funext k
  by_cases hk : k = p.key.asciiUpper
  · simp [hk]
  · simp [List.lookup_cons, beq_false_of_ne hk]

theorem run'_answerPerson (r : Resolver) (preset : Preset) (ps : List Piece)
    (drawn : List (Text × Text)) :
    (rewriteM (r.answerPerson preset) ps).run' drawn =
      (fun persons => rewrite (personAnswer preset (drawn ++ persons)) ps) <$>
        r.drawPersons (openKeys preset drawn ps) := by
  -- the names noted so far are part of the statement: those drawn later are looked up behind them
  induction ps generalizing drawn with
  | nil => rfl
  | cons piece rest ih =>
    cases piece with
    | letter c =>
      rw [run'_rewriteM_letter, ih, Functor.map_map]
      rfl
    | token p =>
      rw [run'_rewriteM_token, run_answerPerson]
      by_cases h : preset.isPerson p
      · cases hdrawn : drawn.lookup p.key.asciiUpper with
        | some person =>
          have hname : ∀ persons, nameFor (drawn ++ persons) p.key = person := fun persons => by
            simp [nameFor, List.lookup_append, hdrawn]
          simp only [h, ↓reduceIte, Option.elim_some, pure_bind, ih, Functor.map_map,
            openKeys_token_known h hdrawn, rewrite_token, personAnswer_known preset hdrawn,
            personAnswer, hname, Option.getD_some]
        | none =>
          have hname : ∀ person persons,
              nameFor (drawn ++ (p.key.asciiUpper, person) :: persons) p.key = person :=
            fun person persons => by simp [nameFor, List.lookup_append, hdrawn]
          have hkeys : ∀ person, openKeys preset ((p.key.asciiUpper, person) :: drawn) rest =
              openKeys preset ((p.key.asciiUpper, []) :: drawn) rest := fun person =>
            (List.cons.inj ((openKeys_token_new h hdrawn person rest).symm.trans
              (openKeys_token_new h hdrawn [] rest))).2
          rw [openKeys_token_new h hdrawn []]
          simp only [h, ↓reduceIte, Option.elim_none, bind_pure_comp, bind_map_left, ih,
            Functor.map_map, personAnswer_new preset hdrawn, hkeys, drawPersons, map_bind,
            rewrite_token, personAnswer, hname, Option.getD_some]
      · simp only [h, Bool.false_eq_true, ↓reduceIte, pure_bind, ih, Functor.map_map,
          openKeys_token_other (Bool.eq_false_iff.2 h), rewrite_token, personAnswer]

/-- Every person key is drawn once, in the order in which the text first has them bare. -/
theorem personPass_eq (r : Resolver) (preset : Preset) (text : Text) :
    r.personPass preset text =
      (fun persons => rewrite (personAnswer preset persons) (r.grammar.pieces text)) <$>
        r.drawPersons (openKeys preset [] (r.grammar.pieces text)) :=
  run'_answerPerson r preset _ []

end Resolver

end EventText
