import EventText.Proofs.Text.Runs
import EventText.Proofs.Yaml.Characters
import EventText.Yaml.Plain

/-! Plain scalars read back. A word is read character by character up to the gap behind it, and spaces
between words are read as they are; so a text that may stand without quotes is read up to the end of
its line. -/

namespace EventText.Yaml

def behindWord? (flow : Bool) (limit : Nat) (text : Text) : Option (Text × Text × Bool) :=
  let gap := text.takeWhile isWhite
  let after := text.dropWhile isWhite
  if gap.isEmpty then
    if isGluedColon flow after then none else some ([], after, false)
  else if hasEarlyTab limit none gap then
    none
  else if continues flow limit gap after then
    (readPlain? flow limit after).map fun p => (foldGap gap ++ p.1, p.2)
  else
    some ([], after, gap.any isBreak)

theorem readPlain?_eq (flow : Bool) (limit : Nat) (text : Text) :
    readPlain? flow limit text =
      (behindWord? flow limit (cutWord flow text).2).map fun p => ((cutWord flow text).1 ++ p.1, p.2) := by
  rw [readPlain?, behindWord?]
  dsimp only
  split
  · split
    · rfl
    · rw [Option.map_some, List.append_nil]
  · split
    · rfl
    · split
      · simp only [Option.map_map, Function.comp_def, List.append_assoc]
      · rw [Option.map_some, List.append_nil]

theorem isGluedColon_false (text : Text) : isGluedColon false text = false := by
  unfold isGluedColon
  split <;> rfl

theorem readPlain?_cons {c : Char} {text : Text} (h : endsWord false (c :: text) = false)
    (limit : Nat) :
    readPlain? false limit (c :: text) =
      (readPlain? false limit text).map fun p => (c :: p.1, p.2) := by
  have hcut : cutWord false (c :: text) =
      (c :: (cutWord false text).1, (cutWord false text).2) := by
    rw [cutWord, h, isGluedColon_false]
    rfl
  rw [readPlain?_eq, readPlain?_eq, hcut, Option.map_map]
  rfl

/-- Spaces in front of a word are part of the scalar. -/
theorem readPlain?_spaces {count : Nat} {c : Char} {text : Text}
    (hword : endsWord false (c :: text) = false) (hcomment : 0 < count → c ≠ '#') (limit : Nat) :
    readPlain? false limit (List.replicate count ' ' ++ c :: text) =
      (readPlain? false limit (c :: text)).map fun p => (List.replicate count ' ' ++ p.1, p.2) := by
  cases count with
  | zero => simp
  | succ count =>
    have hwhite : isWhite c = false := by
      rw [endsWord, Bool.or_eq_false_iff, Bool.or_eq_false_iff] at hword
      exact hword.1.1
    have hspaces : ∀ d ∈ List.replicate (count + 1) ' ', isWhite d = true := by
      intro d hd
      rw [List.eq_of_mem_replicate hd]
      rfl
    have hcut : cutWord false (List.replicate (count + 1) ' ' ++ c :: text) =
        ([], List.replicate (count + 1) ' ' ++ c :: text) := rfl
    have hgap : (List.replicate (count + 1) ' ' ++ c :: text).takeWhile isWhite =
        List.replicate (count + 1) ' ' :=
      Text.takeWhile_exact hspaces (Text.head?_cons_false hwhite _)
    have hafter : (List.replicate (count + 1) ' ' ++ c :: text).dropWhile isWhite = c :: text :=
      Text.dropWhile_exact hspaces (Text.head?_cons_false hwhite _)
    have hbreak : (List.replicate (count + 1) ' ').any isBreak = false := by
      rw [List.any_eq_false]
      intro d hd
      rw [List.eq_of_mem_replicate hd]
      decide
    have htab (n : Nat) : hasEarlyTab limit none (List.replicate n ' ') = false := by
      induction n with
      | zero => rfl
      | succ n ih => exact ih
    have hgoes : continues false limit (List.replicate (count + 1) ' ') (c :: text) = true := by
      simp [continues, hword, hbreak, hcomment]
    have hfold : foldGap (List.replicate (count + 1) ' ') = List.replicate (count + 1) ' ' :=
      if_neg (by simp [hbreak])
    rw [readPlain?_eq, hcut, behindWord?]
    simp only [hgap, hafter, htab, hgoes, hfold, List.nil_append]
    exact Option.map_id'

/-- The scalar ends with its line. -/
theorem readPlain?_break (after : Text) (hafter : ∀ c ∈ after.head?, isWhite c = false) :
    readPlain? false 1 ('\n' :: after) = some ([], after, true) := by
  have hcut : cutWord false ('\n' :: after) = ([], '\n' :: after) := rfl
  have hwhite : ∀ c ∈ ['\n'], isWhite c = true := List.forall_mem_singleton.2 rfl
  have hgap : ('\n' :: after).takeWhile isWhite = ['\n'] := Text.takeWhile_exact hwhite hafter
  have hrest : ('\n' :: after).dropWhile isWhite = after := Text.dropWhile_exact hwhite hafter
  have hends : continues false 1 ['\n'] after = false := by
    simp [continues, columnAfter, show isBreak '\n' = true from rfl]
  rw [readPlain?_eq, hcut, behindWord?]
  simp only [hgap, hrest, hends]
  rfl

theorem atWordEnd_append_break (text after : Text) :
    atWordEnd (text ++ '\n' :: after) = atWordEnd text := by
  cases text <;> rfl

theorem hasInnerIndicator_cons {c : Char} {rest : Text} (h : hasInnerIndicator (c :: rest) = false) :
    hasInnerIndicator rest = false ∧ (∀ more, rest = ':' :: more → atWordEnd more = false) ∧
      (isWhite c = true → rest.head? ≠ some '#') := by
  cases rest with
  | nil => exact ⟨rfl, nofun, fun _ => nofun⟩
  | cons d more =>
    simp only [hasInnerIndicator, Bool.or_eq_false_iff] at h
    obtain ⟨⟨hcolon, hcomment⟩, hmore⟩ := h
    refine ⟨hmore, ?_, ?_⟩
    · intro more' heq
      obtain ⟨rfl, rfl⟩ := List.cons.inj heq
      simpa using hcolon
    · intro hwhite heq
      rw [Option.some.inj heq, hwhite] at hcomment
      cases hcomment

/-- Words with spaces between them are read to the end of the line, `count` spaces being read
already. -/
theorem readPlain?_words {count : Nat} {text : Text} (after : Text)
    (hafter : ∀ c ∈ after.head?, isWhite c = false)
    (hprintable : ∀ c ∈ text, isPrintable c = true ∧ isBreak c = false)
    (hlast : text.getLast? ≠ some ' ') (hinner : hasInnerIndicator text = false)
    (hcolon : ∀ rest, text = ':' :: rest → atWordEnd rest = false)
    (hcount : 0 < count → text ≠ [] ∧ text.head? ≠ some '#') :
    readPlain? false 1 (List.replicate count ' ' ++ (text ++ '\n' :: after)) =
      some (List.replicate count ' ' ++ text, after, true) := by
  induction text generalizing count with
  | nil =>
    cases count with
    | zero => exact readPlain?_break after hafter
    | succ count => exact absurd rfl (hcount (Nat.succ_pos count)).1
  | cons c rest ih =>
    obtain ⟨⟨hc, hbreak⟩, hrest⟩ := List.forall_mem_cons.1 hprintable
    obtain ⟨hinner', hcolon', hcomment⟩ := hasInnerIndicator_cons hinner
    have hlast' : rest.getLast? ≠ some ' ' := by
      intro h
      rw [List.getLast?_cons, h] at hlast
      exact hlast rfl
    by_cases hspace : c = ' '
    · subst hspace
      have hne : rest ≠ [] := by
        rintro rfl
        exact hlast rfl
      have hmore (tail : Text) : List.replicate count ' ' ++ ' ' :: tail =
          List.replicate (count + 1) ' ' ++ tail := by
        rw [List.replicate_succ', List.append_assoc, List.singleton_append]
      rw [List.cons_append, hmore, hmore]
      exact ih hrest hlast' hinner' hcolon' fun _ => ⟨hne, hcomment rfl⟩
    · have hword : endsWord false (c :: (rest ++ '\n' :: after)) = false := by
        have hwhite : isWhite c = false := by
          rw [isWhite_of_isPrintable hc, hbreak]
          simp [hspace]
        have hends : (c == ':' && atWordEnd rest) = false := by
          by_cases heq : c = ':'
          · rw [hcolon rest (by rw [heq]), Bool.and_false]
          · simp [heq]
        rw [endsWord, atWordEnd_append_break, hwhite, hends]
        rfl
      have hnext := @ih 0 hrest hlast' hinner' hcolon' fun hpos => absurd hpos (Nat.lt_irrefl 0)
      rw [List.cons_append, readPlain?_spaces hword ?_, readPlain?_cons hword]
      · rw [List.replicate_zero, List.nil_append, List.nil_append] at hnext
        rw [hnext]
        rfl
      · intro hpos heq
        exact (hcount hpos).2 (by rw [heq]; rfl)

theorem allowsPlain_iff {text : Text} :
    allowsPlain text = true ↔ needsEscapes text = false ∧ (∀ c ∈ text, isBreak c = false) ∧
      text.head? ≠ some ' ' ∧ text.getLast? ≠ some ' ' ∧ hasLeadingIndicator text = false ∧
      hasInnerIndicator text = false := by
  simp only [allowsPlain, Bool.and_eq_true, Bool.not_eq_true', bne_iff_ne, List.any_eq_false,
    Bool.not_eq_true, and_assoc]

/-- A text that may stand without quotes is read from its line. -/
theorem readPlain?_written {text : Text} (h : allowsPlain text = true) (after : Text)
    (hafter : ∀ c ∈ after.head?, isWhite c = false) :
    readPlain? false 1 (text ++ '\n' :: after) = some (text, after, true) := by
  obtain ⟨hescapes, hbreak, -, hlast, hleading, hinner⟩ := allowsPlain_iff.1 h
  have hcolon : ∀ rest, text = ':' :: rest → atWordEnd rest = false := by
    rintro rest rfl
    rw [hasLeadingIndicator, Bool.or_eq_false_iff] at hleading
    simpa using hleading.2
  have hprintable : ∀ c ∈ text, isPrintable c = true ∧ isBreak c = false := fun c hc =>
    ⟨isPrintable_of_needsEscapes hescapes c hc, hbreak c hc⟩
  exact @readPlain?_words 0 text after hafter hprintable hlast hinner hcolon
    fun hpos => absurd hpos (Nat.lt_irrefl 0)

/-- A key is read up to its colon. -/
theorem readPlain?_key {key rest : Text} (hkey : ∀ c ∈ key, isWhite c = false ∧ c ≠ ':')
    (hrest : atWordEnd rest = true) (limit : Nat) :
    readPlain? false limit (key ++ ':' :: rest) = some (key, ':' :: rest, false) := by
  induction key with
  | nil =>
    have hcut : cutWord false (':' :: rest) = ([], ':' :: rest) := by
      simp [cutWord, endsWord, hrest]
    rw [List.nil_append, readPlain?_eq, hcut, behindWord?]
    rfl
  | cons c key ih =>
    obtain ⟨⟨hwhite, hcolon⟩, hmore⟩ := List.forall_mem_cons.1 hkey
    have hword : endsWord false (c :: (key ++ ':' :: rest)) = false := by
      simp [endsWord, hwhite, hcolon]
    rw [List.cons_append, readPlain?_cons hword, ih hmore]
    rfl

end EventText.Yaml
