import EventText.Proofs.Yaml.Characters

/-! Quoted scalars read back. Between single quotes a text may run over several lines, which begin with
the separators and are indented; folding takes the indentation away again. Between double quotes a
text stands on one line, and each of its characters is read from its own escape. -/

namespace EventText.Yaml

section Single

/-- What stands between single quotes when doubled quotes are read. -/
def indentBreaks (afterBreak : Bool) : Text → Text
  | [] => if afterBreak then indentation else []
  | c :: rest =>
    if isBreak c then c :: indentBreaks true rest
    else (if afterBreak then indentation else []) ++ c :: indentBreaks false rest

theorem cutSingle?_cons {c : Char} (h : c ≠ '\'') (rest : Text) :
    cutSingle? (c :: rest) = (cutSingle? rest).map fun p => (c :: p.1, p.2) := by
  rw [cutSingle?]
  · exact fun _ heq _ => h heq
  · exact h

theorem cutSingle?_indentation (afterBreak : Bool) (rest : Text) :
    cutSingle? ((if afterBreak then indentation else []) ++ rest) =
      (cutSingle? rest).map fun p => ((if afterBreak then indentation else []) ++ p.1, p.2) := by
  cases afterBreak with
  | false => simp
  | true =>
    have hspace : ' ' ≠ '\'' := by decide
    rw [if_pos rfl, indentation, List.cons_append, List.singleton_append, cutSingle?_cons hspace,
      cutSingle?_cons hspace, Option.map_map]
    rfl

theorem cutSingle?_singleBody (afterBreak : Bool) (text : Text) {after : Text}
    (hafter : after.head? ≠ some '\'') :
    cutSingle? (singleBody afterBreak text ++ '\'' :: after) =
      some (indentBreaks afterBreak text, after) := by
  induction text generalizing afterBreak with
  | nil =>
    have hclose : cutSingle? ('\'' :: after) = some ([], after) := by
      rw [cutSingle?]
      intro rest heq
      rw [heq] at hafter
      exact hafter rfl
    rw [singleBody, cutSingle?_indentation, hclose, Option.map_some, List.append_nil, indentBreaks]
  | cons c rest ih =>
    rw [singleBody, indentBreaks]
    split
    · rename_i hbreak
      have hquote : c ≠ '\'' := by
        rintro rfl
        cases hbreak
      rw [List.cons_append, cutSingle?_cons hquote, ih]
      rfl
    · rw [List.append_assoc, List.append_assoc, cutSingle?_indentation]
      by_cases hquote : c = '\''
      · rw [if_pos hquote, List.cons_append, List.singleton_append, cutSingle?, ih, hquote]
        rfl
      · rw [if_neg hquote, List.singleton_append, cutSingle?_cons hquote, ih]
        rfl

theorem hasMarkerLine_cons {c : Char} (h : isBreak c = false) (rest : Text) :
    hasMarkerLine (c :: rest) = hasMarkerLine rest := by
  rw [hasMarkerLine, h, Bool.false_and, Bool.false_or]

theorem atDocumentMarker_cons {c : Char} (hdash : c ≠ '-') (hdot : c ≠ '.') (rest : Text) :
    atDocumentMarker (c :: rest) = false := by
  rw [atDocumentMarker, Bool.or_eq_false_iff]
  cases rest with
  | nil => exact ⟨rfl, rfl⟩
  | cons d rest =>
    cases rest with
    | nil => exact ⟨rfl, rfl⟩
    | cons e rest => simp [isMarker, hdash, hdot]

theorem hasMarkerLine_indentation (afterBreak : Bool) (rest : Text) :
    hasMarkerLine ((if afterBreak then indentation else []) ++ rest) = hasMarkerLine rest := by
  cases afterBreak with
  | false => rfl
  | true =>
    rw [if_pos rfl, indentation, List.cons_append, List.singleton_append, hasMarkerLine_cons rfl,
      hasMarkerLine_cons rfl]

/-- The line behind a break is indented or empty. -/
theorem atDocumentMarker_indentBreaks (text : Text) :
    atDocumentMarker (indentBreaks true text ++ ['\'']) = false := by
  cases text with
  | nil => rfl
  | cons c rest =>
    rw [indentBreaks]
    split
    · rename_i hbreak
      refine atDocumentMarker_cons ?_ ?_ _
      · rintro rfl
        cases hbreak
      · rintro rfl
        cases hbreak
    · exact atDocumentMarker_cons (by decide) (by decide) _

theorem hasMarkerLine_indentBreaks (afterBreak : Bool) (text : Text) :
    hasMarkerLine (indentBreaks afterBreak text ++ ['\'']) = false := by
  induction text generalizing afterBreak with
  | nil =>
    rw [indentBreaks, hasMarkerLine_indentation]
    rfl
  | cons c rest ih =>
    rw [indentBreaks]
    split
    · rw [List.cons_append, hasMarkerLine, atDocumentMarker_indentBreaks, Bool.and_false,
        Bool.false_or, ih]
    · rename_i hbreak
      rw [Bool.not_eq_true] at hbreak
      rw [List.append_assoc, hasMarkerLine_indentation, List.cons_append, hasMarkerLine_cons hbreak,
        ih]

/-- No break follows a run of spaces. -/
theorem any_isBreak_indentBreaks {text : Text} (hprintable : ∀ c ∈ text, isPrintable c = true)
    (h : hasSpaceBeforeBreak (' ' :: text) = false) :
    ((indentBreaks false text).takeWhile isWhite).any isBreak = false := by
  induction text with
  | nil => rfl
  | cons c rest ih =>
    obtain ⟨hc, hrest⟩ := List.forall_mem_cons.1 hprintable
    simp only [hasSpaceBeforeBreak, beq_self_eq_true, Bool.true_and, Bool.or_eq_false_iff] at h
    obtain ⟨hbreak, hmore⟩ := h
    rw [indentBreaks, if_neg (by simp [hbreak])]
    by_cases hspace : c = ' '
    · subst hspace
      have hwhite : isWhite ' ' = true := rfl
      simp [hwhite, hbreak, ih hrest hmore]
    · have hwhite : isWhite c = false := by
        rw [isWhite_of_isPrintable hc, hbreak]
        simp [hspace]
      simp [hwhite]

theorem hasSpaceBeforeBreak_of_cons {c : Char} {rest : Text}
    (h : hasSpaceBeforeBreak (c :: rest) = false) : hasSpaceBeforeBreak rest = false := by
  cases rest with
  | nil => rfl
  | cons d rest => exact (Bool.or_eq_false_iff.1 h).2

theorem hasSpaceAfterBreak_of_cons {c : Char} {rest : Text}
    (h : hasSpaceAfterBreak (c :: rest) = false) :
    hasSpaceAfterBreak rest = false ∧ (isBreak c = true → rest.head? ≠ some ' ') := by
  cases rest with
  | nil => exact ⟨rfl, fun _ => nofun⟩
  | cons d rest =>
    obtain ⟨hfirst, hmore⟩ := Bool.or_eq_false_iff.1 h
    refine ⟨hmore, fun hbreak heq => ?_⟩
    rw [Option.some.inj heq, hbreak] at hfirst
    cases hfirst

/-- A separator stays, and of the white space behind it nothing but breaks. -/
theorem fold_separator {c : Char} (hbreak : isBreak c = true) (hfeed : c ≠ '\n') (rest : Text) :
    fold (c :: rest) =
      c :: ((rest.takeWhile isWhite).filter isBreak ++ fold (rest.dropWhile isWhite)) := by
  have hfold (more : Text) : foldBreaks (c :: more) = c :: more := by
    rw [foldBreaks]
    · exact fun heq => hfeed (List.cons.inj heq).1
    · exact fun _ heq => hfeed (List.cons.inj heq).1
  rw [fold, if_pos hbreak, hfold, List.cons_append]

/-- Any other character stays. -/
theorem fold_indentBreaks_cons {c : Char} {rest : Text}
    (hprintable : ∀ d ∈ c :: rest, isPrintable d = true) (hbreak : isBreak c = false)
    (hbefore : hasSpaceBeforeBreak (c :: rest) = false) :
    fold (indentBreaks false (c :: rest)) = c :: fold (indentBreaks false rest) := by
  obtain ⟨hc, hrest⟩ := List.forall_mem_cons.1 hprintable
  have hstays : (isGap c && ((indentBreaks false rest).takeWhile isWhite).any isBreak) = false := by
    rw [isGap_of_isPrintable hc]
    by_cases heq : c = ' '
    · rw [heq] at hbefore
      rw [any_isBreak_indentBreaks hrest hbefore, Bool.and_false]
    · simp [heq]
  rw [indentBreaks, if_neg (by simp [hbreak])]
  change fold (c :: indentBreaks false rest) = _
  rw [fold, if_neg (by simp [hbreak]), hstays, if_neg Bool.false_ne_true]

/-- In front of a word, the white space is the indentation. -/
theorem fold_behind_indentation {c : Char} (hwhite : isWhite c = false) (rest : Text) :
    ((indentBreaks true (c :: rest)).takeWhile isWhite).filter isBreak ++
      fold ((indentBreaks true (c :: rest)).dropWhile isWhite) =
        fold (indentBreaks false (c :: rest)) := by
  have hbreak : isBreak c = false := (Bool.or_eq_false_iff.1 hwhite).2
  have hindented : indentBreaks true (c :: rest) = indentation ++ c :: indentBreaks false rest := by
    simp [indentBreaks, hbreak]
  have hplain : indentBreaks false (c :: rest) = c :: indentBreaks false rest := by
    simp [indentBreaks, hbreak]
  have hspaces : ∀ d ∈ indentation, isWhite d = true :=
    List.forall_mem_cons.2 ⟨rfl, List.forall_mem_singleton.2 rfl⟩
  have hword := Text.head?_cons_false (p := isWhite) hwhite (indentBreaks false rest)
  have hnothing : indentation.filter isBreak = [] := by decide
  rw [hindented, hplain, Text.takeWhile_exact hspaces hword, Text.dropWhile_exact hspaces hword,
    hnothing, List.nil_append]

/-- Folding takes the indentation away. Behind a break it begins with the white space there. -/
theorem fold_indentBreaks {text : Text}
    (hprintable : ∀ c ∈ text, isPrintable c = true ∧ c ≠ '\n')
    (hbefore : hasSpaceBeforeBreak text = false) (hafter : hasSpaceAfterBreak text = false) :
    fold (indentBreaks false text) = text ∧
      (text.head? ≠ some ' ' →
        ((indentBreaks true text).takeWhile isWhite).filter isBreak ++
          fold ((indentBreaks true text).dropWhile isWhite) = text) := by
  induction text with
  | nil =>
    refine ⟨by simp [indentBreaks, fold], fun _ => ?_⟩
    have hspace : isWhite ' ' = true := rfl
    have hgap : isBreak ' ' = false := rfl
    simp [indentBreaks, indentation, hspace, hgap, fold]
  | cons c rest ih =>
    obtain ⟨⟨hc, hfeed⟩, hrest⟩ := List.forall_mem_cons.1 hprintable
    obtain ⟨hafter', hbehind⟩ := hasSpaceAfterBreak_of_cons hafter
    obtain ⟨hplain, hbroken⟩ := ih hrest (hasSpaceBeforeBreak_of_cons hbefore) hafter'
    by_cases hbreak : isBreak c = true
    · have hrun := hbroken (hbehind hbreak)
      have hwhite : isWhite c = true := by simp [isWhite, hbreak]
      constructor
      · rw [indentBreaks, if_pos hbreak, fold_separator hbreak hfeed, hrun]
      · intro _
        rw [indentBreaks, if_pos hbreak, List.takeWhile_cons_of_pos hwhite,
          List.dropWhile_cons_of_pos hwhite, List.filter_cons_of_pos hbreak, List.cons_append, hrun]
    · rw [Bool.not_eq_true] at hbreak
      have hfirst : fold (indentBreaks false (c :: rest)) = c :: rest := by
        rw [fold_indentBreaks_cons (fun d hd => (hprintable d hd).1) hbreak hbefore, hplain]
      refine ⟨hfirst, fun hhead => ?_⟩
      have hwhite : isWhite c = false := by
        have heq : c ≠ ' ' := fun heq => hhead (by rw [heq]; rfl)
        rw [isWhite_of_isPrintable hc]
        simp [heq, hbreak]
      rw [fold_behind_indentation hwhite, hfirst]

theorem readSingle?_written {text after : Text} (h : allowsSingle text = true)
    (hline : '\n' ∉ text) (hafter : after.head? ≠ some '\'') :
    readSingle? (singleBody false text ++ '\'' :: after) = some (text, after) := by
  simp only [allowsSingle, Bool.and_eq_true, Bool.not_eq_true'] at h
  obtain ⟨hescapes, hspace⟩ := h
  have hbreak : hasSpaceBeforeBreak text = false := (Bool.or_eq_false_iff.1 hescapes).2
  have hprintable : ∀ c ∈ text, isPrintable c = true ∧ c ≠ '\n' := fun c hc =>
    ⟨isPrintable_of_needsEscapes hescapes c hc, fun heq => hline (heq ▸ hc)⟩
  rw [readSingle?, cutSingle?_singleBody false text hafter]
  change (if hasMarkerLine (indentBreaks false text ++ ['\'']) = true then none
    else some (fold (indentBreaks false text), after)) = _
  rw [hasMarkerLine_indentBreaks, if_neg (by decide),
    (fold_indentBreaks hprintable hbreak hspace).1]

theorem mem_singleBody {c : Char} {afterBreak : Bool} {text : Text}
    (h : c ∈ singleBody afterBreak text) : c ∈ text ∨ c = ' ' ∨ c = '\'' := by
  have hindent {afterBreak : Bool} (h : c ∈ (if afterBreak then indentation else [])) : c = ' ' := by
    cases afterBreak with
    | false => cases h
    | true => simpa [indentation] using h
  induction text generalizing afterBreak with
  | nil => exact .inr (.inl (hindent h))
  | cons d rest ih =>
    rw [singleBody] at h
    split at h
    · rcases List.mem_cons.1 h with rfl | h
      · exact .inl (List.mem_cons_self ..)
      · exact (ih h).imp_left (List.mem_cons_of_mem d)
    · rw [List.mem_append, List.mem_append] at h
      rcases h with (h | h) | h
      · exact .inr (.inl (hindent h))
      · split at h
        · exact .inr (.inr (by simpa using h))
        · exact .inl (List.mem_cons.2 (.inl (List.mem_singleton.1 h)))
      · exact (ih h).imp_left (List.mem_cons_of_mem d)

theorem isPrintable_of_mem_writeSingle {c : Char} {text : Text}
    (hprintable : ∀ c ∈ text, isPrintable c = true) (h : c ∈ writeSingle text) :
    isPrintable c = true := by
  simp only [writeSingle, List.mem_append, List.mem_cons, List.not_mem_nil, or_false] at h
  rcases h with (rfl | h) | rfl
  · decide
  · rcases mem_singleBody h with h | rfl | rfl
    · exact hprintable c h
    · decide
    · decide
  · decide

end Single

section Double

theorem hexValue?_append (digits : Text) (c : Char) :
    hexValue? (digits ++ [c]) =
      (hexValue? digits).bind fun n => (hexDigit? c).map (n * 16 + ·) := by
  rw [hexValue?, hexValue?, List.foldlM_append]
  simp only [List.foldlM_cons, List.foldlM_nil, bind_pure]
  rfl

theorem hexDigit?_digitChar {n : Nat} (h : n < 16) :
    hexDigit? (Nat.digitChar n).toUpper = some n := by
  have hall : ∀ n : Fin 16, hexDigit? (Nat.digitChar n.val).toUpper = some n.val := by decide
  exact hall ⟨n, h⟩

theorem hexValue?_hexPadded (width n : Nat) : hexValue? (hexPadded width n) = some n := by
  have hzeros (count : Nat) : hexValue? (List.replicate count '0') = some 0 := by
    induction count with
    | zero => rfl
    | succ count ih =>
      rw [List.replicate_succ', hexValue?_append, ih]
      rfl
  have hdigits (zeros : Nat) : hexValue? (List.replicate zeros '0' ++
      (Nat.toDigits 16 n).map Char.toUpper) = some n := by
    induction n using Nat.strongRecOn with
    | _ n ih =>
      by_cases hn : n < 16
      · rw [Nat.toDigits_of_lt_base hn, List.map_singleton, hexValue?_append, hzeros,
          hexDigit?_digitChar hn]
        simp
      · have hlast := hexDigit?_digitChar (Nat.mod_lt n (by decide : 0 < 16))
        rw [Nat.toDigits_of_base_le (by decide) (by omega), List.map_append, List.map_singleton,
          ← List.append_assoc, hexValue?_append, ih (n / 16) (by omega), hlast, Option.bind_some,
          Option.map_some]
        congr 1
        omega
  exact hdigits _

theorem hexDigit?_of_mem_hexPadded {c : Char} {width n : Nat} (h : c ∈ hexPadded width n) :
    ∃ d < 16, c = (Nat.digitChar d).toUpper := by
  have hdigits : ∀ c ∈ (Nat.toDigits 16 n).map Char.toUpper, ∃ d < 16, c = (Nat.digitChar d).toUpper := by
    clear h
    induction n using Nat.strongRecOn with
    | _ n ih =>
      intro c hc
      by_cases hn : n < 16
      · rw [Nat.toDigits_of_lt_base hn, List.map_singleton, List.mem_singleton] at hc
        exact ⟨n, hn, hc⟩
      · rw [Nat.toDigits_of_base_le (by decide) (by omega), List.map_append, List.mem_append,
          List.map_singleton, List.mem_singleton] at hc
        rcases hc with hc | hc
        · exact ih (n / 16) (by omega) c hc
        · exact ⟨n % 16, Nat.mod_lt n (by decide), hc⟩
  rcases List.mem_append.1 h with h | h
  · exact ⟨0, by decide, List.eq_of_mem_replicate h⟩
  · exact hdigits c h

theorem length_hexPadded {width n : Nat} (hwidth : 0 < width) (h : n < 16 ^ width) :
    (hexPadded width n).length = width := by
  have := (Nat.length_toDigits_le_iff (by decide) hwidth).2 h
  simp only [hexPadded, List.length_append, List.length_replicate, List.length_map]
  omega

/-- How a character stands between double quotes: as it is, by a letter, or by its code point. -/
theorem escapeChar_cases (c : Char) :
    (escapeChar c = [c] ∧ isPrintable c = true ∧ isBreak c = false ∧ c ≠ '"' ∧ c ≠ '\\') ∨
    (∃ letter, escapeChar c = ['\\', letter] ∧ hexWidth? letter = none ∧
      escapes.lookup letter = some c ∧ isPrintable letter = true ∧ isBreak letter = false) ∨
    (∃ letter width, escapeChar c = '\\' :: letter :: hexPadded width c.toNat ∧
      hexWidth? letter = some width ∧ 0 < width ∧ c.toNat < 16 ^ width ∧
      isPrintable letter = true ∧ isBreak letter = false) := by
  unfold escapeChar
  split
  · rename_i h
    simp only [Bool.and_eq_true, Bool.not_eq_true', bne_iff_ne] at h
    exact .inl ⟨rfl, h.1.1.1, h.1.1.2, h.1.2, h.2⟩
  · refine .inr ?_
    split
    · rename_i letter hletter
      refine .inl ⟨letter, rfl, ?_⟩
      unfold letterFor? at hletter
      split at hletter
      all_goals cases hletter
      all_goals decide
    · refine .inr ?_
      unfold hexEscape
      split
      · exact ⟨'x', 2, rfl, rfl, by decide, by omega, by decide, by decide⟩
      · split
        · exact ⟨'u', 4, rfl, rfl, by decide, by omega, by decide, by decide⟩
        · have hmax : c.toNat < 0x110000 := by
            have := c.valid
            unfold UInt32.isValidChar Nat.isValidChar at this
            have hval : c.val.toNat = c.toNat := rfl
            omega
          exact ⟨'U', 8, rfl, rfl, by decide, by omega, by decide, by decide⟩

theorem hex_of_mem_hexPadded {c : Char} {width n : Nat} (h : c ∈ hexPadded width n) :
    isPrintable c = true ∧ isBreak c = false ∧ c ≠ '"' ∧ c ≠ '\\' := by
  obtain ⟨d, hd, rfl⟩ := hexDigit?_of_mem_hexPadded h
  have hall : ∀ d : Fin 16, isPrintable (Nat.digitChar d.val).toUpper = true ∧
      isBreak (Nat.digitChar d.val).toUpper = false ∧ (Nat.digitChar d.val).toUpper ≠ '"' ∧
      (Nat.digitChar d.val).toUpper ≠ '\\' := by decide
  exact hall ⟨d, hd⟩

theorem isPrintable_of_mem_escapeChar {c d : Char} (h : d ∈ escapeChar c) :
    isPrintable d = true ∧ isBreak d = false := by
  rcases escapeChar_cases c with ⟨heq, hc, hbreak, -⟩ | ⟨letter, heq, -, -, hletter⟩ |
      ⟨letter, width, heq, -, -, -, hletter⟩
  · rw [heq, List.mem_singleton] at h
    rw [h]
    exact ⟨hc, hbreak⟩
  · rw [heq, List.mem_cons, List.mem_singleton] at h
    rcases h with rfl | rfl
    · decide
    · exact hletter
  · rw [heq, List.mem_cons, List.mem_cons] at h
    rcases h with rfl | rfl | h
    · decide
    · exact hletter
    · exact ⟨(hex_of_mem_hexPadded h).1, (hex_of_mem_hexPadded h).2.1⟩

theorem cutDouble?_cons {c : Char} (hquote : c ≠ '"') (hslash : c ≠ '\\') (rest : Text) :
    cutDouble? (c :: rest) = (cutDouble? rest).map fun p => (c :: p.1, p.2) := by
  rw [cutDouble?]
  · exact fun _ _ heq _ => hslash heq
  · exact hquote

theorem cutDouble?_append {text : Text} (h : ∀ c ∈ text, c ≠ '"' ∧ c ≠ '\\') (rest : Text) :
    cutDouble? (text ++ rest) = (cutDouble? rest).map fun p => (text ++ p.1, p.2) := by
  induction text with
  | nil => simp
  | cons c text ih =>
    obtain ⟨hc, htext⟩ := List.forall_mem_cons.1 h
    rw [List.cons_append, cutDouble?_cons hc.1 hc.2, ih htext, Option.map_map]
    rfl

/-- No quote within an escape ends the scalar. -/
theorem cutDouble?_escapeChar (c : Char) (rest : Text) :
    cutDouble? (escapeChar c ++ rest) =
      (cutDouble? rest).map fun p => (escapeChar c ++ p.1, p.2) := by
  rcases escapeChar_cases c with ⟨heq, -, -, hc⟩ | ⟨letter, heq, -⟩ | ⟨letter, width, heq, -⟩
  · rw [heq]
    exact cutDouble?_cons hc.1 hc.2 rest
  · rw [heq]
    rfl
  · have hdigits : ∀ d ∈ hexPadded width c.toNat, d ≠ '"' ∧ d ≠ '\\' :=
      fun d hd => (hex_of_mem_hexPadded hd).2.2
    rw [heq, List.cons_append, List.cons_append, cutDouble?, cutDouble?_append hdigits,
      Option.map_map]
    rfl

theorem cutDouble?_flatMap (text after : Text) :
    cutDouble? (text.flatMap escapeChar ++ '"' :: after) = some (text.flatMap escapeChar, after) := by
  induction text with
  | nil => rfl
  | cons c rest ih =>
    rw [List.flatMap_cons, List.append_assoc, cutDouble?_escapeChar, ih]
    rfl

/-- A character is read from its escape, when what follows it stands on the same line. -/
theorem unescape?_escapeChar (c : Char) {rest : Text} (h : ∀ d ∈ rest, isBreak d = false) :
    unescape? (escapeChar c ++ rest) = (unescape? rest).map (c :: ·) := by
  rcases escapeChar_cases c with ⟨heq, -, hbreak, -, hslash⟩ |
      ⟨letter, heq, hwidth, hletter, -, hbreak⟩ |
      ⟨letter, width, heq, hwidth, hpos, hcode, -, hbreak⟩
  · have hrun : (rest.takeWhile isWhite).any isBreak = false := by
      rw [List.any_eq_false]
      intro d hd
      rw [h d ((List.takeWhile_sublist _).subset hd)]
      decide
    rw [heq, List.singleton_append, unescape?]
    · simp [hbreak, hrun]
    · exact fun heq' _ => hslash heq'
    · exact fun _ _ heq' _ => hslash heq'
  · rw [heq, List.cons_append, List.singleton_append, unescape?]
    simp only [hbreak, hwidth, hletter]
    cases unescape? rest <;> rfl
  · have hlength := length_hexPadded hpos hcode
    have hchar : hexChar? (hexPadded width c.toNat) = some c := by
      have hvalid : c.toNat.isValidChar := c.valid
      rw [hexChar?, hexValue?_hexPadded]
      simp [hvalid]
    have htake : (hexPadded width c.toNat ++ rest).take width = hexPadded width c.toNat := by
      rw [List.take_left' hlength]
    have hdrop : (hexPadded width c.toNat ++ rest).drop width = rest := by
      rw [List.drop_left' hlength]
    have hlong : ¬ (hexPadded width c.toNat ++ rest).length < width := by
      rw [List.length_append, hlength]
      omega
    rw [heq, List.cons_append, List.cons_append, unescape?]
    simp only [hbreak, hwidth, htake, hdrop, hchar, hlong]
    cases unescape? rest <;> rfl

theorem readDouble?_written (text after : Text) :
    readDouble? (text.flatMap escapeChar ++ '"' :: after) = some (text, after) := by
  have hbreak : ∀ d ∈ text.flatMap escapeChar, isBreak d = false := by
    intro d hd
    obtain ⟨c, -, hc⟩ := List.mem_flatMap.1 hd
    exact (isPrintable_of_mem_escapeChar hc).2
  have hline : ∀ {line : Text}, (∀ d ∈ line, isBreak d = false) → hasMarkerLine line = false := by
    intro line hline
    induction line with
    | nil => rfl
    | cons d line ih =>
      obtain ⟨hd, hmore⟩ := List.forall_mem_cons.1 hline
      rw [hasMarkerLine_cons hd, ih hmore]
  have hread : unescape? (text.flatMap escapeChar) = some text := by
    induction text with
    | nil => rw [List.flatMap_nil, unescape?]
    | cons c rest ih =>
      rw [List.flatMap_cons, List.forall_mem_append] at hbreak
      rw [List.flatMap_cons, unescape?_escapeChar c hbreak.2, ih hbreak.2]
      rfl
  have hmarker : hasMarkerLine (text.flatMap escapeChar ++ ['"']) = false :=
    hline (List.forall_mem_append.2 ⟨hbreak, List.forall_mem_singleton.2 rfl⟩)
  rw [readDouble?, cutDouble?_flatMap]
  change (if hasMarkerLine (text.flatMap escapeChar ++ ['"']) = true then none
    else (unescape? (text.flatMap escapeChar)).bind fun value => some (value, after)) = _
  rw [hmarker, if_neg (by decide), hread]
  rfl

theorem isPrintable_of_mem_writeDouble {c : Char} {text : Text} (h : c ∈ writeDouble text) :
    isPrintable c = true := by
  simp only [writeDouble, List.mem_append, List.mem_cons, List.mem_flatMap, List.not_mem_nil,
    or_false] at h
  rcases h with (rfl | ⟨d, -, h⟩) | rfl
  · decide
  · exact (isPrintable_of_mem_escapeChar h).1
  · decide

end Double

end EventText.Yaml
