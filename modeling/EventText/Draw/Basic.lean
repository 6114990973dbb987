/-!
Random decisions as trees. A computation either is done or asks for an index below a count and goes
on with the answer, so what is drawn, in which order and from how many, can be read off the tree
itself. A source answers the questions; only an index below zero cannot be answered.
-/

namespace EventText

inductive Draw (α : Type) where
  | done (value : α)
  /-- Asks for an index below `count`. -/
  | index (count : Nat) (next : Fin count → Draw α)

namespace Draw

def bind : Draw α → (α → Draw β) → Draw β
  | done value, next => next value
  | index count answer, next => index count fun i => (answer i).bind next

instance : Monad Draw where
  pure := done
  bind := bind

theorem bind_done (draw : Draw α) : draw.bind done = draw := by
  induction draw with
  | done value => rfl
  | index count next ih => exact congrArg (index count) (funext ih)

theorem bind_assoc (draw : Draw α) (f : α → Draw β) (g : β → Draw γ) :
    (draw.bind f).bind g = draw.bind fun a => (f a).bind g := by
  induction draw with
  | done value => rfl
  | index count next ih => exact congrArg (index count) (funext ih)

instance : LawfulMonad Draw :=
  LawfulMonad.mk' Draw bind_done (fun _ _ => rfl) bind_assoc

def indexBelow (count : Nat) : Draw (Fin count) :=
  index count done

/-- A fair coin: index one of two is `true`. -/
def coin : Draw Bool := do
  let i ← indexBelow 2
  return i == 1

/-- One of the items, each with the same chance; nothing is drawn from an empty list. -/
def choose (items : List α) : Draw (Option α) :=
  if items.isEmpty then
    return none
  else do
    let i ← indexBelow items.length
    return some items[i]

end Draw

class Source (σ : Type) where
  /-- An index below `count`, and the source after it. -/
  next : (count : Nat) → 0 < count → σ → Fin count × σ

structure Outcome (σ α : Type) where
  /-- The result; `none` when an index below zero was asked for. -/
  value : Option α
  source : σ
  /-- How many indices were asked for. -/
  asked : Nat

/-- Answers the questions of the computation from the source, one after the other. -/
def Draw.run [Source σ] : Draw α → σ → Outcome σ α
  | done value, source => ⟨some value, source, 0⟩
  | index count next, source =>
    if positive : 0 < count then
      let (i, source) := Source.next count positive source
      let outcome := (next i).run source
      { outcome with asked := outcome.asked + 1 }
    else
      ⟨none, source, 1⟩

end EventText
