import EventText.Draw.Basic
import Mathlib.Tactic.Common

/-! The course of a computation that draws: which results it may have (`Draw.Yields`), which counts
it asks for, when these do not depend on the answers (`Draw.Asks`), and that every source carries it
to its end (`Draw.Answerable`). -/

namespace EventText.Draw

theorem done_bind (a : α) (f : α → Draw β) : done a >>= f = f a := rfl

theorem index_bind (count : Nat) (next : Fin count → Draw α) (f : α → Draw β) :
    index count next >>= f = index count fun i => next i >>= f := rfl

/-- The value is a result under some answers. -/
def Yields : Draw α → α → Prop
  | done value, a => a = value
  | index _ next, a => ∃ i, (next i).Yields a

@[simp] theorem yields_pure {a b : α} : (pure b : Draw α).Yields a ↔ a = b := Iff.rfl

@[simp] theorem yields_bind {d : Draw α} {f : α → Draw β} {b : β} :
    (d >>= f).Yields b ↔ ∃ a, d.Yields a ∧ (f a).Yields b := by
  induction d with
  | done value => simp [done_bind, Yields]
  | index count next ih =>
    simp only [index_bind, Yields, ih]
    exact ⟨fun ⟨i, a, h⟩ => ⟨a, ⟨i, h.1⟩, h.2⟩, fun ⟨a, ⟨i, h⟩, hb⟩ => ⟨i, a, h, hb⟩⟩

@[simp] theorem yields_map {d : Draw α} {f : α → β} {b : β} :
    (f <$> d).Yields b ↔ ∃ a, d.Yields a ∧ b = f a := by
  rw [map_eq_pure_bind, yields_bind]
  simp only [yields_pure]

/-- Continuations need to agree on the possible results only. -/
theorem bind_congr_yields {d : Draw α} {f g : α → Draw β} (h : ∀ a, d.Yields a → f a = g a) :
    d >>= f = d >>= g := by
  induction d with
  | done value => exact h value rfl
  | index count next ih =>
    rw [index_bind, index_bind]
    congr 1
    funext i
    exact ih i fun a ha => h a ⟨i, ha⟩

theorem run_index [Source σ] {count : Nat} (hcount : 0 < count) (next : Fin count → Draw α)
    (source : σ) :
    (index count next).run source =
      let outcome := (next (Source.next count hcount source).1).run
        (Source.next count hcount source).2
      { outcome with asked := outcome.asked + 1 } := by
  rw [run, dif_pos hcount]

theorem yields_of_run [Source σ] {d : Draw α} {source : σ} {a : α}
    (h : (d.run source).value = some a) : d.Yields a := by
  induction d generalizing source with
  | done value => exact (Option.some.inj h).symm
  | index count next ih =>
    unfold run at h
    split at h
    · exact ⟨_, ih _ h⟩
    · cases h

theorem value_run_bind [Source σ] {d : Draw α} {source : σ} {a : α}
    (h : (d.run source).value = some a) (f : α → Draw β) :
    ((d >>= f).run source).value = ((f a).run (d.run source).source).value := by
  induction d generalizing source with
  | done value =>
    obtain rfl := Option.some.inj h
    rfl
  | index count next ih =>
    by_cases hcount : 0 < count
    · rw [run_index hcount] at h
      rw [index_bind, run_index hcount, run_index hcount]
      exact ih _ h
    · unfold run at h
      rw [dif_neg hcount] at h
      cases h

theorem value_run_map [Source σ] (f : α → β) (d : Draw α) (source : σ) :
    ((f <$> d).run source).value = (d.run source).value.map f := by
  induction d generalizing source with
  | done value => rfl
  | index count next ih =>
    rw [map_eq_pure_bind, index_bind]
    by_cases hcount : 0 < count
    · rw [run_index hcount, run_index hcount]
      simpa only [map_eq_pure_bind] using ih _ _
    · unfold run
      rw [dif_neg hcount, dif_neg hcount]
      rfl

/-- Whatever the answers are, these counts are asked for, in this order. -/
def Asks : Draw α → List Nat → Prop
  | done _, counts => counts = []
  | index count next, counts => ∃ rest, counts = count :: rest ∧ ∀ i, (next i).Asks rest

theorem Asks.bind {d : Draw α} {f : α → Draw β} {before after : List Nat} (h : d.Asks before)
    (hf : ∀ a, (f a).Asks after) : (d >>= f).Asks (before ++ after) := by
  induction d generalizing before with
  | done value =>
    obtain rfl := h
    exact hf value
  | index count next ih =>
    obtain ⟨rest, rfl, hrest⟩ := h
    exact ⟨rest ++ after, rfl, fun i => ih i (hrest i)⟩

theorem Asks.map {d : Draw α} {counts : List Nat} (f : α → β) (h : d.Asks counts) :
    (f <$> d).Asks counts := by
  rw [map_eq_pure_bind, ← List.append_nil counts]
  exact h.bind fun _ => rfl

theorem asks_indexBelow (count : Nat) : (indexBelow count).Asks [count] :=
  ⟨[], rfl, fun _ => rfl⟩

theorem asks_coin : coin.Asks [2] :=
  (asks_indexBelow 2).map _

/-- No answers lead to a question for an index below zero. -/
def Answerable : Draw α → Prop
  | done _ => True
  | index count next => 0 < count ∧ ∀ i, (next i).Answerable

theorem answerable_pure (a : α) : (pure a : Draw α).Answerable := trivial

theorem Answerable.bind {d : Draw α} {f : α → Draw β} (h : d.Answerable)
    (hf : ∀ a, (f a).Answerable) : (d >>= f).Answerable := by
  induction d with
  | done value => exact hf value
  | index count next ih => exact ⟨h.1, fun i => ih i (h.2 i)⟩

theorem Answerable.map {d : Draw α} (f : α → β) (h : d.Answerable) : (f <$> d).Answerable := by
  rw [map_eq_pure_bind]
  exact h.bind fun _ => answerable_pure _

theorem answerable_indexBelow {count : Nat} (h : 0 < count) : (indexBelow count).Answerable :=
  ⟨h, fun _ => trivial⟩

theorem Answerable.exists_value [Source σ] {d : Draw α} (h : d.Answerable) (source : σ) :
    ∃ a, (d.run source).value = some a := by
  induction d generalizing source with
  | done value => exact ⟨value, rfl⟩
  | index count next ih =>
    rw [run_index h.1]
    exact ih _ (h.2 _) _

theorem Asks.answerable {d : Draw α} {counts : List Nat} (h : d.Asks counts)
    (hpos : ∀ count ∈ counts, 0 < count) : d.Answerable := by
  induction d generalizing counts with
  | done value => trivial
  | index count next ih =>
    obtain ⟨rest, rfl, hrest⟩ := h
    obtain ⟨hcount, hpos⟩ := List.forall_mem_cons.1 hpos
    exact ⟨hcount, fun i => ih i (hrest i) hpos⟩

theorem Asks.asked_run [Source σ] {d : Draw α} {counts : List Nat} (h : d.Asks counts)
    (hanswerable : d.Answerable) (source : σ) : (d.run source).asked = counts.length := by
  induction d generalizing counts source with
  | done value =>
    obtain rfl := h
    rfl
  | index count next ih =>
    obtain ⟨rest, rfl, hrest⟩ := h
    rw [run_index hanswerable.1, List.length_cons, ← ih _ (hrest _) (hanswerable.2 _)]

/-- A run that asks for positive counts only comes to an end and has asked for all of them. -/
theorem Asks.run [Source σ] {d : Draw α} {counts : List Nat} (h : d.Asks counts)
    (hpos : ∀ count ∈ counts, 0 < count) (source : σ) :
    (d.run source).value.isSome = true ∧ (d.run source).asked = counts.length := by
  have hanswerable := h.answerable hpos
  exact ⟨Option.isSome_iff_exists.2 (hanswerable.exists_value source),
    h.asked_run hanswerable source⟩

end EventText.Draw
