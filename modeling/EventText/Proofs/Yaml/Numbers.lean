import EventText.Proofs.Yaml.Characters
import EventText.Proofs.Yaml.Plain
import EventText.Proofs.Text.Runs

/-! Whole numbers in decimal notation. They are plain words, and are read as the numbers that they
are: none of them has a sign, a base, or a zero in front. -/

namespace EventText

namespace Yaml

section Plain

theorem isPrintable_of_isDigit {c : Char} (h : c.isDigit = true) : isPrintable c = true := by
  obtain ⟨hzero, hnine⟩ := toNat_of_isDigit h
  have hspace : ' ' ≤ c := UInt32.le_iff_toNat_le.2 (Nat.le_trans (by decide) hzero)
  have htilde : c ≤ '~' := UInt32.le_iff_toNat_le.2 (Nat.le_trans hnine (by decide))
  simp [isPrintable, hspace, htilde]

theorem hasSpaceBeforeBreak_eq_false {text : Text} (h : ' ' ∉ text) :
    hasSpaceBeforeBreak text = false := by
  induction text with
  | nil => rfl
  | cons c rest ih =>
    rw [List.mem_cons, not_or] at h
    cases rest with
    | nil => rfl
    | cons d rest =>
      rw [hasSpaceBeforeBreak, ih h.2]
      simp [Ne.symm h.1]

theorem hasInnerIndicator_eq_false {text : Text} (hcolon : ':' ∉ text) (hcomment : '#' ∉ text) :
    hasInnerIndicator text = false := by
  induction text with
  | nil => rfl
  | cons c rest ih =>
    rw [List.mem_cons, not_or] at hcolon hcomment
    cases rest with
    | nil => rfl
    | cons d rest =>
      rw [hasInnerIndicator, ih hcolon.2 hcomment.2]
      have hd : ':' ≠ d ∧ '#' ≠ d :=
        ⟨(not_or.1 (mt List.mem_cons.2 hcolon.2)).1, (not_or.1 (mt List.mem_cons.2 hcomment.2)).1⟩
      simp [Ne.symm hd.1, Ne.symm hd.2]

theorem hasLeadingIndicator_of_isDigit {c : Char} (hc : c.isDigit = true) (rest : Text) :
    hasLeadingIndicator (c :: rest) = false := by
  have hfront (d : Char) (hd : d.isDigit = false) (more : Text) :
      (d :: more).isPrefixOf (c :: rest) = false := by
    rw [List.isPrefixOf, beq_eq_false_iff_ne.2 (ne_of_class hc hd).symm, Bool.false_and]
  have hmark : ['?', ':', '-'].contains c = false :=
    contains_eq_false_of_class hc (by decide)
  have hindicator : "#,[]\x7b\x7d&*!|>'\"%@\x60".toList.contains c = false :=
    contains_eq_false_of_class hc (by decide)
  rw [hasLeadingIndicator, hmark, hindicator]
  have hmarkers := And.intro (hfront '-' rfl ['-', '-']) (hfront '.' rfl ['.', '.'])
  simpa using hmarkers

/-- Digits need no quotes. -/
theorem allowsPlain_of_isDigit {text : Text} (h : ∀ c ∈ text, c.isDigit = true) :
    allowsPlain text = true := by
  have hmem {d : Char} (hd : d.isDigit = false) : d ∉ text := fun hmem =>
    absurd rfl (ne_of_class (h d hmem) hd)
  have hescapes : needsEscapes text = false := by
    have hall : text.all isPrintable = true :=
      List.all_eq_true.2 fun c hc => isPrintable_of_isDigit (h c hc)
    rw [needsEscapes, hall, hasSpaceBeforeBreak_eq_false (hmem rfl)]
    rfl
  have hbreak : ∀ c ∈ text, isBreak c = false := by
    intro c hc
    have hne (d : Char) (hd : d.isDigit = false) : (c == d) = false :=
      beq_eq_false_iff_ne.2 (ne_of_class (h c hc) hd)
    simp [isBreak, hne]
  have hleading : hasLeadingIndicator text = false := by
    cases text with
    | nil => rfl
    | cons c rest => exact hasLeadingIndicator_of_isDigit (h c (List.mem_cons_self ..)) rest
  refine allowsPlain_iff.2 ⟨hescapes, hbreak, ?_, ?_, hleading,
    hasInnerIndicator_eq_false (hmem rfl) (hmem rfl)⟩
  · exact fun heq => hmem rfl (List.mem_of_head? heq)
  · exact fun heq => hmem rfl (List.mem_of_getLast? heq)

end Plain

section Reading

theorem readInBase?_digits {digits : Text} (hne : digits ≠ [])
    (h : ∀ c ∈ digits, c.isDigit = true) :
    readInBase? 10 digits = some (Nat.ofDigitChars 10 digits 0) := by
  rw [readInBase?, if_neg (by simpa using hne)]
  clear hne
  -- the induction runs over the digits that are left, behind those that make up the number so far
  generalize 0 = n
  induction digits generalizing n with
  | nil => rfl
  | cons c digits ih =>
    obtain ⟨hc, hdigits⟩ := List.forall_mem_cons.1 h
    have hvalue : digitValue? c = some (c.toNat - '0'.toNat) := if_pos hc
    rw [List.foldlM_cons, hvalue, Option.bind_some, if_pos (toNat_sub_lt_of_isDigit hc), Nat.mul_comm]
    exact ih hdigits _

/-- A number in decimal notation is read as that number. -/
theorem readUnsigned?_ofNat (n : Nat) : readUnsigned? (Text.ofNat n) = some n := by
  obtain ⟨c, rest, heq⟩ := List.exists_cons_of_ne_nil (Text.ofNat_ne_nil n)
  have hdigits : ∀ d ∈ c :: rest, d.isDigit = true := fun d hd =>
    Text.isDigit_of_mem_ofNat (heq ▸ hd)
  have hsign (signs : List Char) (hsigns : signs.any Char.isDigit = false) :
      dropSign signs (c :: rest) = c :: rest := by
    rw [dropSign, contains_eq_false_of_class (hdigits c (List.mem_cons_self ..)) hsigns,
      if_neg Bool.false_ne_true]
  have hzero : hasIdleZero (c :: rest) = false := by
    rw [hasIdleZero, hsign ['+', '-'] (by decide)]
    split
    · rename_i rest' hfront
      obtain ⟨rfl, rfl⟩ := List.cons.inj hfront
      rw [Text.eq_nil_of_ofNat_eq_zero heq]
      rfl
    · rfl
  have hbase : readMagnitude? (c :: rest) = readInBase? 10 (c :: rest) := by
    have hletter (d : Char) (more : Text) (hd : d.isDigit = false) :
        c :: rest ≠ '0' :: d :: more := by
      intro hfront
      exact ne_of_class (hdigits d (by rw [hfront]; simp)) hd rfl
    unfold readMagnitude?
    split
    · exact absurd ‹_› (hletter 'x' _ rfl)
    · exact absurd ‹_› (hletter 'o' _ rfl)
    · exact absurd ‹_› (hletter 'b' _ rfl)
    · rfl
  rw [heq, readUnsigned?, hzero, hsign ['+'] (by decide), hbase,
    readInBase?_digits (List.cons_ne_nil c rest) hdigits, ← heq]
  exact congrArg some Nat.ofDigitChars_ten_toDigits

end Reading

end Yaml

end EventText
