import EventText.Proofs.Template.Span

/-! Texts cut at bytes. A cut fails unless it lies within the text, its end not before its beginning,
and both at the boundaries of characters; so a part that is cut out comes from a splitting of the text
into characters, and every splitting gives such a part (`slice?_eq_some_iff`). -/

namespace EventText.Text

def splitBytes? : Nat → Text → Option (Text × Text)
  | 0, text => some ([], text)
  | _ + 1, [] => none
  | n + 1, c :: rest =>
    if c.utf8Size ≤ n + 1 then
      (splitBytes? (n + 1 - c.utf8Size) rest).map fun (before, after) => (c :: before, after)
    else
      none

def dropBytes? (start : Nat) (text : Text) : Option Text :=
  (splitBytes? start text).map (·.2)

def slice? (text : Text) (start stop : Nat) : Option Text :=
  if start ≤ stop then do
    let behind ← text.dropBytes? start
    (behind.splitBytes? (stop - start)).map (·.1)
  else
    none

def bytes (text : Text) : List UInt8 :=
  text.flatMap String.utf8EncodeChar

def indices (start : Nat) : Text → List (Nat × Char)
  | [] => []
  | c :: rest => (start, c) :: indices (start + c.utf8Size) rest

def findByte? (p : Char → Bool) : Text → Option Nat
  | [] => none
  | c :: rest => if p c then some 0 else (findByte? p rest).map (c.utf8Size + ·)

theorem splitBytes?_eq_some_iff {n : Nat} {text before after : Text} :
    splitBytes? n text = some (before, after) ↔ text = before ++ after ∧ n = before.utf8Length := by
  induction text generalizing n before with
  | nil =>
    cases n with
    | zero => cases before <;> simp [splitBytes?]
    | succ n =>
      simp only [splitBytes?, reduceCtorEq, false_iff, not_and]
      intro h
      obtain ⟨rfl, -⟩ := List.append_eq_nil_iff.1 h.symm
      simp
  | cons c rest ih =>
    have hsize := c.utf8Size_pos
    cases n with
    | zero =>
      cases before with
      | nil => simp [splitBytes?]
      | cons d before =>
        have := d.utf8Size_pos
        simp only [splitBytes?, Option.some.injEq, Prod.mk.injEq, reduceCtorEq, false_and,
          utf8Length_cons, false_iff, not_and]
        omega
    | succ n =>
      simp only [splitBytes?, Option.ite_none_right_eq_some, Option.map_eq_some_iff,
        Prod.mk.injEq, Prod.exists]
      constructor
      · rintro ⟨hle, a, b, hsplit, rfl, rfl⟩
        obtain ⟨rfl, hn⟩ := ih.1 hsplit
        refine ⟨rfl, ?_⟩
        rw [utf8Length_cons]
        omega
      · rintro ⟨htext, hn⟩
        cases before with
        | nil => simp at hn
        | cons d before =>
          obtain ⟨rfl, rfl⟩ := List.cons.inj htext
          rw [utf8Length_cons] at hn
          exact ⟨by omega, before, after, ih.2 ⟨rfl, by omega⟩, rfl, rfl⟩

theorem dropBytes?_eq_some_iff {start : Nat} {text after : Text} :
    text.dropBytes? start = some after ↔
      ∃ before, text = before ++ after ∧ start = before.utf8Length := by
  simp [dropBytes?, splitBytes?_eq_some_iff]

theorem slice?_eq_some_iff {text part : Text} {start stop : Nat} :
    text.slice? start stop = some part ↔
      ∃ before after, text = before ++ part ++ after ∧ start = before.utf8Length ∧
        stop = start + part.utf8Length := by
  simp only [slice?, Option.ite_none_right_eq_some, Option.bind_eq_bind, Option.bind_eq_some_iff,
    dropBytes?_eq_some_iff, Option.map_eq_some_iff, Prod.exists, splitBytes?_eq_some_iff]
  constructor
  · rintro ⟨hle, behind, ⟨before, rfl, hstart⟩, _, after, ⟨rfl, hlength⟩, rfl⟩
    exact ⟨before, after, (List.append_assoc ..).symm, hstart, by omega⟩
  · rintro ⟨before, after, rfl, hstart, hstop⟩
    refine ⟨by omega, part ++ after, ⟨before, List.append_assoc .., hstart⟩, part, after, ?_, rfl⟩
    exact ⟨rfl, by omega⟩

theorem dropBytes?_append (before after : Text) :
    (before ++ after).dropBytes? before.utf8Length = some after :=
  dropBytes?_eq_some_iff.2 ⟨before, rfl, rfl⟩

theorem slice?_append (before part after : Text) :
    (before ++ part ++ after).slice? before.utf8Length (before.utf8Length + part.utf8Length) =
      some part :=
  slice?_eq_some_iff.2 ⟨before, after, rfl, rfl, rfl⟩

@[simp] theorem bytes_nil : bytes [] = [] := rfl

@[simp] theorem bytes_cons (c : Char) (text : Text) :
    bytes (c :: text) = String.utf8EncodeChar c ++ bytes text := rfl

theorem findByte?_eq (p : Char → Bool) (text : Text) :
    text.findByte? p =
      if (text.dropWhile (!p ·)).isEmpty then none
      else some (Text.utf8Length (text.takeWhile (!p ·))) := by
  induction text with
  | nil => rfl
  | cons c rest ih =>
    by_cases hc : p c = true
    · simp [findByte?, hc]
    · rw [findByte?, if_neg hc, ih, List.dropWhile_cons_of_pos (by simp [hc]),
        List.takeWhile_cons_of_pos (by simp [hc])]
      split <;> simp

theorem dropWhile_indices {start stop : Nat} (skipped rest : Text)
    (hstop : stop = start + skipped.utf8Length) :
    ((skipped ++ rest).indices start).dropWhile (·.1 < stop) = rest.indices stop := by
  induction skipped generalizing start with
  | nil =>
    obtain rfl : stop = start := hstop
    cases rest <;> simp [indices]
  | cons c skipped ih =>
    have hsize := c.utf8Size_pos
    rw [utf8Length_cons] at hstop
    rw [List.cons_append, indices, List.dropWhile_cons_of_pos (by simp; omega)]
    exact ih (by omega)

end EventText.Text
