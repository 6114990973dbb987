import EventText.Proofs.Template.Cut

/-! The spans of placeholders. `slice_of_mem_located`: the bytes from the beginning to the end of a
span are the written form of its placeholder. -/

namespace EventText

@[simp] theorem Text.utf8Length_nil : Text.utf8Length [] = 0 := rfl

@[simp] theorem Text.utf8Length_cons (c : Char) (text : Text) :
    Text.utf8Length (c :: text) = c.utf8Size + Text.utf8Length text := rfl

@[simp] theorem Text.utf8Length_append (a b : Text) :
    Text.utf8Length (a ++ b) = Text.utf8Length a + Text.utf8Length b := by
  induction a with
  | nil => simp
  | cons c a ih => rw [List.cons_append, Text.utf8Length_cons, ih, Text.utf8Length_cons, Nat.add_assoc]

namespace Template

theorem slice_of_mem_locatedFrom {ps : List Piece} {start first last : Nat} {p : Placeholder}
    (h : (first, last, p) ∈ locatedFrom start ps) :
    ∃ before after, written ps = before ++ p.written ++ after ∧
      first = start + Text.utf8Length before ∧ last = first + Text.utf8Length p.written := by
  induction ps generalizing start with
  | nil => simp [locatedFrom] at h
  | cons piece rest ih =>
    cases piece with
    | letter c =>
      obtain ⟨before, after, hrest, hfirst, hlast⟩ := ih h
      refine ⟨c :: before, after, by simp [hrest], ?_, hlast⟩
      rw [hfirst, Text.utf8Length_cons, Nat.add_assoc]
    | token q =>
      rcases List.mem_cons.1 h with heq | hmem
      · obtain ⟨rfl, rfl, rfl⟩ := by simpa using heq
        exact ⟨[], written rest, by simp, by simp, rfl⟩
      · obtain ⟨before, after, hrest, hfirst, hlast⟩ := ih hmem
        refine ⟨q.written ++ before, after, by simp [hrest], ?_, hlast⟩
        rw [hfirst, Text.utf8Length_append, Nat.add_assoc]

theorem slice_of_mem_located {ps : List Piece} {first last : Nat} {p : Placeholder}
    (h : (first, last, p) ∈ located ps) :
    ∃ before after, written ps = before ++ p.written ++ after ∧
      first = Text.utf8Length before ∧ last = first + Text.utf8Length p.written := by
  obtain ⟨before, after, hps, hfirst, hlast⟩ := slice_of_mem_locatedFrom h
  exact ⟨before, after, hps, by simpa using hfirst, hlast⟩

theorem locatedFrom_append (start : Nat) (ps qs : List Piece) :
    locatedFrom start (ps ++ qs) =
      locatedFrom start ps ++ locatedFrom (start + (written ps).utf8Length) qs := by
  induction ps generalizing start with
  | nil => rfl
  | cons piece rest ih =>
    cases piece with
    | letter c =>
      rw [List.cons_append, locatedFrom, ih, locatedFrom, written_letter, Text.utf8Length_cons,
        Nat.add_assoc]
    | token p =>
      rw [List.cons_append, locatedFrom, ih, locatedFrom, written_token, Text.utf8Length_append,
        List.cons_append, Nat.add_assoc]

theorem locatedFrom_letters (start : Nat) (text : Text) :
    locatedFrom start (text.map .letter) = [] := by
  induction text generalizing start with
  | nil => rfl
  | cons c text ih => exact ih _

end Template

end EventText
