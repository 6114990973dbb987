import EventText.Json.Value
import Mathlib.Data.Bool.AllAny
import Mathlib.Data.List.Basic

/-! Written JSON read back: every string, whatever stands in it, and objects of values that are read
back. Escapes keep the written form free of control characters. -/

namespace EventText.Json

section Strings

theorem hexDigit?_hexChar {n : Nat} (h : n < 16) : hexDigit? (hexChar n) = some n := by
  have hall : ∀ n : Fin 16, hexDigit? (hexChar n.val) = some n.val := by decide
  exact hall ⟨n, h⟩

theorem readCodes?_plain {c : Char} (hlow : 0x20 ≤ c.toNat) (hquote : c ≠ '"') (hslash : c ≠ '\\')
    (rest : Text) :
    readCodes? (c :: rest) = (readCodes? rest).map fun p => (c.toNat :: p.1, p.2) := by
  have hplain : ¬ (decide (c.toNat < 0x20) || decide (c = '\\')) = true := by
    simp [hslash]
    omega
  rw [readCodes?]
  · rw [if_neg hplain]
    cases readCodes? rest <;> rfl
  · exact hquote
  · intro _ _ _ _ _ h _
    exact hslash h
  · intro _ _ h _
    exact hslash h

theorem readCodes?_backslash {e c : Char} (h : escaped? e = some c) (rest : Text) :
    readCodes? ('\\' :: e :: rest) = (readCodes? rest).map fun p => (c.toNat :: p.1, p.2) := by
  rw [readCodes?]
  · rw [h]
    cases readCodes? rest <;> rfl
  · rintro _ _ _ _ _ rfl -
    cases h

theorem readCodes?_unicode {a b c d : Char} {code : Nat} (h : hexValue? a b c d = some code)
    (rest : Text) :
    readCodes? ('\\' :: 'u' :: a :: b :: c :: d :: rest) =
      (readCodes? rest).map fun p => (code :: p.1, p.2) := by
  rw [readCodes?, h]
  cases readCodes? rest <;> rfl

/-- A written character is read as its code point. -/
theorem readCodes?_escapeChar (c : Char) (rest : Text) :
    readCodes? (escapeChar c ++ rest) =
      (readCodes? rest).map fun p => (c.toNat :: p.1, p.2) := by
  unfold escapeChar
  split
  all_goals try exact readCodes?_backslash rfl rest
  · rename_i hquote hslash _ _ _ _ _
    split
    · rename_i hlow
      refine readCodes?_unicode ?_ rest
      have hfirst := hexDigit?_hexChar (n := c.toNat / 16) (by omega)
      have hsecond := hexDigit?_hexChar (n := c.toNat % 16) (by omega)
      have hzero : hexDigit? '0' = some 0 := rfl
      have hcode : ((0 * 16 + 0) * 16 + c.toNat / 16) * 16 + c.toNat % 16 = c.toNat := by omega
      simp only [hexValue?, hzero, hfirst, hsecond, Option.bind_eq_bind, Option.bind_some, hcode]
      rfl
    · rename_i hlow
      exact readCodes?_plain (Nat.le_of_not_lt hlow) hquote hslash rest

theorem readCodes?_flatMap (text rest : Text) :
    readCodes? (text.flatMap escapeChar ++ '"' :: rest) = some (text.map Char.toNat, rest) := by
  induction text with
  | nil => rw [List.flatMap_nil, List.nil_append, readCodes?, List.map_nil]
  | cons c text ih =>
    rw [List.flatMap_cons, List.append_assoc, readCodes?_escapeChar, ih, List.map_cons]
    rfl

/-- No character is half of a pair. -/
theorem textOfCodes_map (text : Text) : textOfCodes (text.map Char.toNat) = some text := by
  have hvalid (c : Char) : ¬ (0xD800 ≤ c.toNat ∧ c.toNat ≤ 0xDFFF) := by
    have := c.valid
    unfold UInt32.isValidChar Nat.isValidChar at this
    have hval : c.val.toNat = c.toNat := rfl
    omega
  induction text with
  | nil => rfl
  | cons high text ih =>
    have hhigh := hvalid high
    cases text with
    | nil =>
      rw [List.map_cons, List.map_nil, textOfCodes, if_neg (by simpa using hhigh),
        Char.ofNat_toNat]
    | cons low rest =>
      rw [List.map_cons, List.map_cons, textOfCodes, if_neg (by simp; omega),
        if_neg (by simp; omega), ← List.map_cons, ih, Char.ofNat_toNat]
      rfl

theorem readString?_written (text rest : Text) :
    readString? (text.flatMap escapeChar ++ '"' :: rest) = some (some text, rest) := by
  rw [readString?, readCodes?_flatMap]
  exact congrArg (fun text => some (text, rest)) (textOfCodes_map text)

end Strings

section Objects

/-- The written form is read as the value, whatever stands behind it. -/
def Reads (written : Text) (value : Json) : Prop :=
  ∀ fuel rest, readValue? (fuel + 1) (written ++ rest) = some (value, rest)

theorem reads_writeString (text : Text) : Reads (writeString text) (string (some text)) := by
  intro fuel rest
  have hread := readString?_written text rest
  rw [writeString, List.cons_append, List.cons_append, List.append_assoc, List.singleton_append]
  change (readString? _).map _ = _
  rw [hread]
  rfl

theorem reads_null : Reads "null".toList null := by
  intro fuel rest
  rfl

theorem readEntries?_entry {written : Text} {value : Json} (hvalue : Reads written value)
    (fuel : Nat) (key after : Text) :
    readEntries? (fuel + 2) (writeString key ++ ':' :: written ++ after) =
      (match skipGap after with
      | ',' :: rest => do
        let (entries, rest) ← readEntries? (fuel + 1) rest
        return ((some key, value) :: entries, rest)
      | '}' :: rest => return ([(some key, value)], rest)
      | _ => none) := by
  have hkey := readString?_written key (':' :: (written ++ after))
  have htext : writeString key ++ ':' :: written ++ after =
      '"' :: (key.flatMap escapeChar ++ '"' :: ':' :: (written ++ after)) := by
    simp [writeString]
  rw [htext, readEntries?]
  change ((readString? _).bind _) = _
  rw [hkey, Option.bind_some]
  change ((readValue? _ _).bind _) = _
  exact congrArg (Option.bind · _) (hvalue fuel after)

theorem readEntries?_join {entries : List (Text × Text × Json)} (hne : entries ≠ [])
    (hreads : ∀ e ∈ entries, Reads e.2.1 e.2.2) {fuel : Nat} (hfuel : entries.length < fuel)
    (rest : Text) :
    readEntries? fuel
        (Text.join [','] (entries.map fun e => writeString e.1 ++ ':' :: e.2.1) ++ '}' :: rest) =
      some (entries.map fun e => (some e.1, e.2.2), rest) := by
  induction entries generalizing fuel with
  | nil => exact absurd rfl hne
  | cons first others ih =>
    obtain ⟨hfirst, hothers⟩ := List.forall_mem_cons.1 hreads
    obtain ⟨fuel, rfl⟩ : ∃ n, fuel = n + 2 := ⟨fuel - 2, by rw [List.length_cons] at hfuel; omega⟩
    cases others with
    | nil => exact readEntries?_entry hfirst fuel first.1 ('}' :: rest)
    | cons second others =>
      have hlength : (second :: others).length < fuel + 1 := Nat.lt_of_succ_lt_succ hfuel
      have hnext := ih (List.cons_ne_nil _ _) hothers hlength
      have hjoin (a b : Text) (texts : List Text) :
          Text.join [','] (a :: b :: texts) ++ '}' :: rest =
            a ++ ',' :: (Text.join [','] (b :: texts) ++ '}' :: rest) := by
        rw [Text.join]
        · simp
        · exact nofun
      rw [List.map_cons] at hnext
      rw [List.map_cons, List.map_cons, hjoin, readEntries?_entry hfirst]
      change ((readEntries? _ _).bind _) = _
      rw [hnext]
      rfl

theorem length_le_length_join {texts : List Text} (h : ∀ text ∈ texts, text ≠ []) (between : Text) :
    texts.length ≤ (Text.join between texts).length := by
  induction texts with
  | nil => exact Nat.zero_le _
  | cons first others ih =>
    obtain ⟨hfirst, hothers⟩ := List.forall_mem_cons.1 h
    have hpos := List.length_pos_iff.2 hfirst
    cases others with
    | nil => exact hpos
    | cons second others =>
      have hrest := ih hothers
      rw [Text.join, List.length_append, List.length_append, List.length_cons]
      · omega
      · exact nofun

theorem ofText?_object {entries : List (Text × Text × Json)} (hne : entries ≠ [])
    (hreads : ∀ e ∈ entries, Reads e.2.1 e.2.2) :
    ofText? ('{' :: Text.join [','] (entries.map fun e => writeString e.1 ++ ':' :: e.2.1) ++ ['}']) =
      some (object (entries.map fun e => (some e.1, e.2.2))) := by
  obtain ⟨inner, hinner⟩ : ∃ inner,
      Text.join [','] (entries.map fun e => writeString e.1 ++ ':' :: e.2.1) = '"' :: inner := by
    cases entries with
    | nil => exact absurd rfl hne
    | cons first others =>
      cases others with
      | nil => exact ⟨_, rfl⟩
      | cons second others => exact ⟨_, rfl⟩
  have hlength : entries.length ≤
      (Text.join [','] (entries.map fun e => writeString e.1 ++ ':' :: e.2.1)).length := by
    have hfull : ∀ text ∈ entries.map (fun e => writeString e.1 ++ ':' :: e.2.1), text ≠ [] := by
      intro text htext
      obtain ⟨e, -, rfl⟩ := List.mem_map.1 htext
      simp
    simpa using length_le_length_join hfull [',']
  rw [hinner] at hlength ⊢
  have hfuel : entries.length < ('{' :: '"' :: inner ++ ['}']).length := by
    rw [List.length_cons] at hlength
    simp only [List.length_append, List.length_cons]
    omega
  have hentries := readEntries?_join hne hreads hfuel []
  rw [hinner] at hentries
  change ((readEntries? _ ('"' :: inner ++ ['}'])).map _).bind _ = _
  rw [hentries]
  rfl

end Objects

section Lines

theorem le_toNat_of_mem_writeString {c : Char} {text : Text} (h : c ∈ writeString text) :
    0x20 ≤ c.toNat := by
  have hhex (n : Nat) (hn : n < 16) : 0x20 ≤ (hexChar n).toNat := by
    have hall : ∀ n : Fin 16, 0x20 ≤ (hexChar n.val).toNat := by decide
    exact hall ⟨n, hn⟩
  have hescape (d : Char) : ∀ c ∈ escapeChar d, 0x20 ≤ c.toNat := by
    unfold escapeChar
    split
    all_goals try exact List.all_iff_forall_prop.1 (by decide)
    split
    · rename_i hlow
      simp only [List.forall_mem_cons]
      exact ⟨by decide, by decide, by decide, by decide, hhex _ (by omega), hhex _ (by omega),
        List.forall_mem_nil _⟩
    · rename_i hlow
      exact fun c hc => by rw [List.mem_singleton.1 hc]; exact Nat.le_of_not_lt hlow
  rw [writeString, List.cons_append, List.mem_cons, List.mem_append, List.mem_singleton,
    List.mem_flatMap] at h
  rcases h with rfl | ⟨d, -, hd⟩ | rfl
  · decide
  · exact hescape d c hd
  · decide

theorem mem_of_mem_join {c : Char} {between : Text} {texts : List Text}
    (h : c ∈ Text.join between texts) : c ∈ between ∨ ∃ text ∈ texts, c ∈ text := by
  induction texts using Text.join.induct with
  | case1 => cases h
  | case2 only => exact .inr ⟨only, List.mem_singleton_self only, h⟩
  | case3 first rest hrest ih =>
    rw [Text.join.eq_3 _ _ _ hrest, List.append_assoc, List.mem_append, List.mem_append] at h
    rcases h with h | h | h
    · exact .inr ⟨first, List.mem_cons_self .., h⟩
    · exact .inl h
    · exact (ih h).imp_right fun ⟨text, htext, hc⟩ => ⟨text, List.mem_cons_of_mem _ htext, hc⟩

end Lines

end EventText.Json
