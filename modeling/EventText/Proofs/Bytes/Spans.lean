import EventText.Proofs.Bytes.Slice
import EventText.Proofs.Template.Recognition

/-! Placeholders found by their bytes. The walk counts the bytes of a key, searches for the byte that
ends a payload, cuts the text at what it has counted, and passes over characters by the bytes at which
they begin. None of its cuts fails, and it finds the placeholders at their places (`spans?_eq`). -/

namespace EventText

open Template

def isKeyByte (b : UInt8) : Bool :=
  isKeyChar (Char.ofNat b.toNat)

/-- The payload that begins at byte `start`, and the byte behind the bracket that closes it. The outer
`none` is a cut that failed, the inner one that the line has no such bracket. -/
def payloadAt? (text : Text) (start : Nat) : Option (Option (Text × Nat)) := do
  match (← text.dropBytes? start).findByte? (!isPayloadChar ·) with
  | none => return none
  | some length => do
    if (← text.dropBytes? (start + length)).head? = some '\n' then return none
    return some (← text.slice? start (start + length), start + length + 1)

/-- The placeholder whose opening bracket stands at byte `start`, with the bytes at which it begins
and ends. The outer `none` is a cut that failed, the inner one that there is no placeholder. -/
def tokenAt? (text : Text) (start : Nat) : Option (Option (Nat × Nat × Placeholder)) := do
  let behind ← text.dropBytes? (start + 1)
  let keyEnd := start + 1 + (behind.bytes.takeWhile isKeyByte).length
  if keyEnd = start + 1 then return none
  let key ← text.slice? (start + 1) keyEnd
  match ← text.dropBytes? keyEnd with
  | ']' :: _ => return some (start, keyEnd + 1, ⟨key, none⟩)
  | ':' :: _ =>
    return (← payloadAt? text (keyEnd + 1)).map fun (payload, stop) =>
      (start, stop, ⟨key, some payload⟩)
  | _ => return none

/-- The placeholders that begin at some of the characters. Those inside a placeholder are passed
over. -/
def spansAt? (text : Text) : List (Nat × Char) → Option (List (Nat × Nat × Placeholder))
  | [] => some []
  | (start, c) :: rest =>
    if c = '[' then do
      match ← tokenAt? text start with
      | some span => return span :: (← spansAt? text (rest.dropWhile (·.1 < span.2.1)))
      | none => spansAt? text rest
    else
      spansAt? text rest
termination_by characters => characters.length
decreasing_by
  · exact Nat.lt_succ_of_le (List.dropWhile_sublist _).length_le
  · simp
  · simp

/-- The placeholders with the bytes at which they begin and end. Those of the pattern are where the
search matches. -/
def Grammar.spans? : Grammar → Text → Option (List (Nat × Nat × Placeholder))
  | .pattern, text => some (Found.locatedFrom 0 (placeholderPattern.scan text))
  | .brackets, text => spansAt? text (text.indices 0)

def Grammar.unresolvedAt? (grammar : Grammar) (text : Text) : Option (List Text) := do
  (← grammar.spans? text).mapM fun (start, stop, _) => text.slice? start stop

section Keys

theorem isKeyChar_eq_false {n : Nat} (hlow : 128 ≤ n) (hhigh : n < 256) :
    isKeyChar (Char.ofNat n) = false := by
  have hall : ∀ n : Fin 256, 128 ≤ n.val → isKeyChar (Char.ofNat n.val) = false := by
    decide +kernel
  exact hall ⟨n, hhigh⟩ hlow

theorem toNat_lt_of_isKeyChar {c : Char} (h : isKeyChar c = true) : c.toNat < 128 := by
  have hclass : (((c.isUpper || c.isLower) || c.isDigit) || c == '_') = true := h
  have hvalues : 'Z'.toNat = 90 ∧ 'z'.toNat = 122 ∧ '9'.toNat = 57 ∧ '_'.toNat = 95 := by decide
  simp only [Bool.or_eq_true, beq_iff_eq] at hclass
  rcases hclass with ((h | h) | h) | rfl
  · have : c.toNat ≤ 'Z'.toNat := (of_decide_eq_true h).2
    omega
  · have : c.toNat ≤ 'z'.toNat := of_decide_eq_true (Bool.and_eq_true_iff.1 h).2
    omega
  · have : c.toNat ≤ '9'.toNat := of_decide_eq_true (Bool.and_eq_true_iff.1 h).2
    omega
  · omega

theorem utf8Size_of_lt {c : Char} (h : c.toNat < 128) : c.utf8Size = 1 := by
  rw [Char.utf8Size_eq_one_iff, UInt32.le_iff_toNat_le]
  exact Nat.le_of_lt_succ h

theorem isKeyByte_of_lt {c : Char} (h : c.toNat < 128) :
    isKeyByte (UInt8.ofNat c.toNat) = isKeyChar c := by
  rw [isKeyByte, UInt8.toNat_ofNat', Nat.mod_eq_of_lt (by omega), Char.ofNat_toNat]

/-- A character of several bytes begins with a byte that no key has. -/
theorem isKeyByte_first {c : Char} (h : isKeyChar c = false) :
    ∃ b rest, String.utf8EncodeChar c = b :: rest ∧ isKeyByte b = false := by
  by_cases hc : c.toNat < 128
  · refine ⟨_, [], String.utf8EncodeChar_eq_singleton (utf8Size_of_lt hc), ?_⟩
    rw [← h, ← isKeyByte_of_lt hc]
    rfl
  · have hbyte : ∀ n, n < 64 → isKeyByte (UInt8.ofNat (n + 192)) = false := by
      intro n hn
      rw [isKeyByte, UInt8.toNat_ofNat', Nat.mod_eq_of_lt (by omega)]
      exact isKeyChar_eq_false (by omega) (by omega)
    have hval : ¬ c.val.toNat ≤ 127 := fun hle => hc (Nat.lt_succ_of_le hle)
    unfold String.utf8EncodeChar
    simp only [hval, if_false]
    split
    · exact ⟨_, _, rfl, hbyte _ (by omega)⟩
    · split
      · exact ⟨_, _, rfl, hbyte (c.val.toNat / 4096 % 16 + 32) (by omega)⟩
      · exact ⟨_, _, rfl, hbyte (c.val.toNat / 262144 % 8 + 48) (by omega)⟩

theorem length_takeWhile_bytes (text : Text) :
    (text.bytes.takeWhile isKeyByte).length = Text.utf8Length (text.takeWhile isKeyChar) := by
  induction text with
  | nil => rfl
  | cons c rest ih =>
    by_cases hc : isKeyChar c = true
    · have hlow := toNat_lt_of_isKeyChar hc
      have hbyte : isKeyByte c.val.toUInt8 = true := (isKeyByte_of_lt hlow).trans hc
      rw [Text.bytes_cons, String.utf8EncodeChar_eq_singleton (utf8Size_of_lt hlow),
        List.singleton_append, List.takeWhile_cons_of_pos hbyte, List.length_cons, ih,
        List.takeWhile_cons_of_pos hc, Text.utf8Length_cons, utf8Size_of_lt hlow, Nat.add_comm]
    · rw [Bool.not_eq_true] at hc
      obtain ⟨b, more, hencode, hb⟩ := isKeyByte_first hc
      rw [Text.bytes_cons, hencode, List.cons_append, List.takeWhile_cons_of_neg (by simp [hb]),
        List.takeWhile_cons_of_neg (by simp [hc])]
      rfl

end Keys

section Walk

theorem Text.utf8Length_eq_zero {text : Text} : text.utf8Length = 0 ↔ text = [] := by
  cases text with
  | nil => simp
  | cons c rest =>
    have := c.utf8Size_pos
    simp only [Text.utf8Length_cons, reduceCtorEq, iff_false]
    omega

theorem Placeholder.utf8Length_written (p : Placeholder) :
    p.written.utf8Length =
      p.key.utf8Length + (p.payload.elim 0 fun payload => payload.utf8Length + 1) + 2 := by
  have hsizes : '['.utf8Size = 1 ∧ ':'.utf8Size = 1 ∧ ']'.utf8Size = 1 := ⟨rfl, rfl, rfl⟩
  cases hpayload : p.payload with
  | none =>
    simp [Placeholder.written, hpayload, hsizes]
    omega
  | some payload =>
    simp [Placeholder.written, hpayload, hsizes]
    omega

theorem payloadAt?_append (before body : Text) :
    payloadAt? (before ++ body) before.utf8Length =
      some (match body.dropWhile isPayloadChar with
        | ']' :: _ => some (body.takeWhile isPayloadChar,
            before.utf8Length + Text.utf8Length (body.takeWhile isPayloadChar) + 1)
        | _ => none) := by
  obtain ⟨payload, tail, hpayload, htail, rfl⟩ : ∃ payload tail : Text,
      body.takeWhile isPayloadChar = payload ∧ body.dropWhile isPayloadChar = tail ∧
        body = payload ++ tail :=
    ⟨_, _, rfl, rfl, List.takeWhile_append_dropWhile.symm⟩
  have hfirst := List.head?_dropWhile_not isPayloadChar (payload ++ tail)
  unfold payloadAt?
  simp only [Text.dropBytes?_append, Option.bind_eq_bind, Option.bind_some, Text.findByte?_eq,
    Bool.not_not, hpayload, htail] at hfirst ⊢
  cases tail with
  | nil => rfl
  | cons c tail =>
    have hclose : Text.dropBytes? (before.utf8Length + payload.utf8Length)
        (before ++ (payload ++ c :: tail)) = some (c :: tail) :=
      Text.dropBytes?_eq_some_iff.2 ⟨before ++ payload, by simp, by simp⟩
    have hslice : Text.slice? (before ++ (payload ++ c :: tail)) before.utf8Length
        (before.utf8Length + payload.utf8Length) = some payload :=
      Text.slice?_eq_some_iff.2 ⟨before, c :: tail, by simp, rfl, rfl⟩
    -- the payload was ended by a bracket or by the end of its line
    have hc : c = ']' ∨ c = '\n' := by
      simpa [isPayloadChar, ← or_iff_not_imp_left] using hfirst
    rcases hc with rfl | rfl
    · simp [hclose, hslice]
    · simp [hclose]

theorem tokenAt?_append (before rest : Text) :
    tokenAt? (before ++ '[' :: rest) before.utf8Length =
      some ((afterBracket? rest).map fun found =>
        (before.utf8Length, before.utf8Length + found.1.written.utf8Length, found.1)) := by
  obtain ⟨key, tail, hkey, htail, rfl⟩ : ∃ key tail : Text, rest.takeWhile isKeyChar = key ∧
      rest.dropWhile isKeyChar = tail ∧ rest = key ++ tail :=
    ⟨_, _, rfl, rfl, List.takeWhile_append_dropWhile.symm⟩
  have hbracket : '['.utf8Size = 1 := rfl
  have hbehind : Text.dropBytes? (before.utf8Length + 1) (before ++ '[' :: (key ++ tail)) =
      some (key ++ tail) :=
    Text.dropBytes?_eq_some_iff.2 ⟨before ++ ['['], by simp, by simp [hbracket]⟩
  unfold tokenAt? afterBracket?
  simp only [hbehind, Option.bind_eq_bind, Option.bind_some, length_takeWhile_bytes, hkey, htail]
  by_cases hempty : key = []
  · simp [hempty]
  · have hlength : key.utf8Length ≠ 0 := mt Text.utf8Length_eq_zero.1 hempty
    have hslice : Text.slice? (before ++ '[' :: (key ++ tail)) (before.utf8Length + 1)
        (before.utf8Length + 1 + key.utf8Length) = some key :=
      Text.slice?_eq_some_iff.2 ⟨before ++ ['['], tail, by simp, by simp [hbracket], rfl⟩
    have hkeyEnd : Text.dropBytes? (before.utf8Length + 1 + key.utf8Length)
        (before ++ '[' :: (key ++ tail)) = some tail :=
      Text.dropBytes?_eq_some_iff.2
        ⟨before ++ '[' :: key, by simp, by simp [hbracket, Nat.add_assoc]⟩
    simp only [Nat.add_eq_left, hlength, if_false, hslice, hkeyEnd, Option.bind_some,
      List.isEmpty_iff, hempty]
    cases tail with
    | nil => rfl
    | cons c body =>
      by_cases hclosed : c = ']'
      · subst hclosed
        have hstop : before.utf8Length + 1 + key.utf8Length + 1 =
            before.utf8Length + (key.utf8Length + 0 + 2) := by omega
        simp only [Option.map_some, Placeholder.utf8Length_written, Option.elim_none, ← hstop]
        rfl
      · by_cases hcolon : c = ':'
        · subst hcolon
          have hstart : Text.utf8Length (before ++ '[' :: (key ++ [':'])) =
              before.utf8Length + 1 + key.utf8Length + 1 := by
            simp [hbracket, show ':'.utf8Size = 1 from rfl, Nat.add_assoc]
          have hpayload := payloadAt?_append (before ++ '[' :: (key ++ [':'])) body
          rw [hstart] at hpayload
          simp only [List.append_assoc, List.cons_append, List.nil_append] at hpayload
          simp only [hpayload]
          cases body.dropWhile isPayloadChar with
          | nil => rfl
          | cons d after =>
            by_cases hd : d = ']'
            · subst hd
              have hstop (n : Nat) : before.utf8Length + 1 + key.utf8Length + 1 + n + 1 =
                  before.utf8Length + (key.utf8Length + (n + 1) + 2) := by omega
              simp only [Option.map_some, Placeholder.utf8Length_written, Option.elim_some,
                Option.bind_some, ← hstop]
              rfl
            · simp [hd]
        · simp [hclosed, hcolon]

theorem spansAt?_indices (before rest : Text) :
    spansAt? (before ++ rest) (rest.indices before.utf8Length) =
      some (locatedFrom before.utf8Length (bracketPieces rest)) := by
  have hbracket : '['.utf8Size = 1 := rfl
  induction rest using bracketPieces.induct generalizing before with
  | case1 => simp [spansAt?, bracketPieces, locatedFrom, Text.indices]
  | case2 rest p after h ih =>
    have htext := (afterBracket?_sound h).2
    obtain ⟨inner, hinner⟩ := p.exists_written_eq_cons
    have hrest : rest = inner ++ after := by
      rw [hinner] at htext
      exact (List.cons.inj htext).2
    have hstop : before.utf8Length + p.written.utf8Length =
        before.utf8Length + 1 + Text.utf8Length inner := by
      rw [hinner, Text.utf8Length_cons, hbracket, Nat.add_assoc]
    have hskip := Text.dropWhile_indices inner after hstop
    have hafter := ih (before ++ p.written)
    rw [List.append_assoc, ← htext, Text.utf8Length_append] at hafter
    rw [Text.indices, spansAt?, if_pos rfl, tokenAt?_append, h, hbracket, hrest]
    simp only [Option.map_some, Option.bind_eq_bind, Option.bind_some]
    rw [hskip, ← hrest, hafter, bracketPieces_some h, locatedFrom]
    rfl
  | case3 rest h ih =>
    have hafter := ih (before ++ ['['])
    rw [List.append_assoc, Text.utf8Length_append] at hafter
    rw [Text.indices, spansAt?, if_pos rfl, tokenAt?_append, h, bracketPieces_none h, locatedFrom]
    exact hafter
  | case4 c rest hc ih =>
    have hafter := ih (before ++ [c])
    rw [List.append_assoc, Text.utf8Length_append] at hafter
    rw [Text.indices, spansAt?, if_neg hc, bracketPieces_letter hc, locatedFrom]
    exact hafter

namespace Grammar

/-- Placeholders are found at their places, and no cut fails on the way. -/
theorem spans?_eq (grammar : Grammar) (text : Text) :
    grammar.spans? text = some (located (grammar.pieces text)) := by
  cases grammar with
  | pattern =>
    rw [spans?, scan_placeholderPattern, Found.locatedFrom_found]
    exact congrArg (fun ps => some (located ps)) (patternPieces_eq text).symm
  | brackets => exact spansAt?_indices [] text

theorem unresolvedAt?_eq (grammar : Grammar) (text : Text) :
    grammar.unresolvedAt? text = some (grammar.unresolved text) := by
  have hcuts : ∀ (before : Text) (ps : List Piece),
      ((locatedFrom before.utf8Length ps).mapM fun (start, stop, _) =>
        (before ++ written ps).slice? start stop) =
      some ((placeholders ps).map Placeholder.written) := by
    intro before ps
    induction ps generalizing before with
    | nil => rfl
    | cons piece rest ih =>
      cases piece with
      | letter c =>
        have hrest := ih (before ++ [c])
        rw [Text.utf8Length_append, List.append_assoc] at hrest
        exact hrest
      | token p =>
        have hrest := ih (before ++ p.written)
        rw [Text.utf8Length_append] at hrest
        have hslice := Text.slice?_append before p.written (written rest)
        rw [List.append_assoc] at hslice hrest
        simp only [locatedFrom, written_token, List.mapM_cons, hslice, placeholders_token,
          List.map_cons, Option.bind_eq_bind, Option.bind_some, hrest]
        rfl
  rw [unresolvedAt?, spans?_eq, Option.bind_eq_bind, Option.bind_some, unresolved]
  have htext := grammar.written_pieces text
  have hall := hcuts [] (grammar.pieces text)
  rw [List.nil_append, htext] at hall
  exact hall

end Grammar

end Walk

end EventText
