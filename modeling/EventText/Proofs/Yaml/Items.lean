import EventText.Proofs.Yaml.Block
import EventText.Proofs.Yaml.Plain
import EventText.Proofs.Yaml.Quoted
import EventText.Proofs.Yaml.Scanning

/-! The items of a written list. Whatever its style, an item is a hyphen, a scalar with its text, and
the margin of the next line. -/

namespace EventText.Yaml

section Written

def styleOf (text : Text) : Style :=
  if text.contains '\n' then
    if allowsLiteral text then .block else .quoted
  else if isTextWord text && allowsPlain text then .plain
  else .quoted

def writtenItem (text : Text) : Text :=
  let item := '-' :: ' ' :: writeText text
  if item.getLast?.any isBreak then item else item ++ ['\n']

/-- How a text is written, and what its style says about it. -/
theorem writeText_cases (text : Text) :
    (writeText text = writeLiteral text ∧ styleOf text = .block ∧ text ≠ [] ∧
      needsEscapes text = false) ∨
    (writeText text = text ∧ styleOf text = .plain ∧ text ≠ [] ∧ allowsPlain text = true) ∨
    (writeText text = writeSingle text ∧ styleOf text = .quoted ∧ '\n' ∉ text ∧
      allowsSingle text = true) ∨
    (writeText text = writeDouble text ∧ styleOf text = .quoted) := by
  unfold writeText styleOf
  split
  · rename_i hline
    split
    · rename_i hliteral
      refine .inl ⟨rfl, rfl, ?_, ?_⟩
      · rintro rfl
        cases hline
      · simp only [allowsLiteral, Bool.and_eq_true, Bool.not_eq_true'] at hliteral
        exact hliteral.1
    · exact .inr (.inr (.inr ⟨rfl, rfl⟩))
  · rename_i hline
    split
    · rename_i hplain
      rw [Bool.and_eq_true] at hplain
      refine .inr (.inl ⟨rfl, rfl, ?_, hplain.2⟩)
      rintro rfl
      cases hplain.1
    · split
      · rename_i hsingle
        exact .inr (.inr (.inl ⟨rfl, rfl, by simpa using hline, hsingle⟩))
      · exact .inr (.inr (.inr ⟨rfl, rfl⟩))

theorem writtenItem_line {text front : Text} {last : Char} (h : writeText text = front ++ [last])
    (hlast : isBreak last = false) :
    writtenItem text = '-' :: ' ' :: (front ++ [last, '\n']) := by
  have hopen : (('-' :: ' ' :: (front ++ [last])).getLast?.any isBreak) = false := by
    rw [← List.cons_append, ← List.cons_append, List.getLast?_concat]
    exact hlast
  rw [writtenItem, h, if_neg (by rw [hopen]; decide)]
  simp

theorem isPrintable_of_mem_writeText {c : Char} {text : Text} (h : c ∈ writeText text) :
    isPrintable c = true := by
  rcases writeText_cases text with ⟨hwritten, -, -, hescapes⟩ | ⟨hwritten, -, -, hplain⟩ |
      ⟨hwritten, -, -, hsingle⟩ | ⟨hwritten, -⟩ <;> rw [hwritten] at h
  · exact isPrintable_of_mem_writeLiteral (isPrintable_of_needsEscapes hescapes) h
  · exact isPrintable_of_needsEscapes (allowsPlain_iff.1 hplain).1 c h
  · have hescapes : needsEscapes text = false := by
      rw [allowsSingle, Bool.and_eq_true, Bool.not_eq_true'] at hsingle
      exact hsingle.1
    exact isPrintable_of_mem_writeSingle (isPrintable_of_needsEscapes hescapes) h
  · exact isPrintable_of_mem_writeDouble h

theorem isPrintable_of_mem_writeItems {c : Char} {texts : List Text} (h : c ∈ writeItems texts) :
    isPrintable c = true := by
  obtain ⟨text, -, hitem⟩ := List.mem_flatMap.1 h
  have hmarks : c ∈ '-' :: ' ' :: writeText text ∨ c = '\n' := by
    dsimp only at hitem
    split at hitem
    · exact .inl hitem
    · exact (List.mem_append.1 hitem).imp_right List.eq_of_mem_singleton
  rcases hmarks with hmem | rfl
  · rw [List.mem_cons, List.mem_cons] at hmem
    rcases hmem with rfl | rfl | hmem
    · decide
    · decide
    · exact isPrintable_of_mem_writeText hmem
  · decide

def itemTokens (texts : List Text) : List Token :=
  texts.flatMap fun text => [.item, .scalar (styleOf text) text]

def listTokens (texts : List Text) : List Token :=
  if texts.isEmpty then [.openSequence, .closeSequence] else itemTokens texts

def writtenList (texts : List Text) : Text :=
  if texts.isEmpty then " []\n".toList else '\n' :: writeItems texts

theorem isPrintable_of_mem_writtenList {c : Char} {texts : List Text} (h : c ∈ writtenList texts) :
    isPrintable c = true := by
  cases texts with
  | nil =>
    have hbrackets : " []\n".toList.all isPrintable = true := by decide
    exact List.all_eq_true.1 hbrackets c h
  | cons text texts =>
    rcases List.mem_cons.1 h with rfl | h
    · decide
    · exact isPrintable_of_mem_writeItems h

/-- Every item has a line of its own, with a character for each of its tokens at least. -/
theorem length_itemTokens_le (texts : List Text) :
    (itemTokens texts).length ≤ (writeItems texts).length := by
  induction texts with
  | nil => exact Nat.le_refl 0
  | cons text texts ih =>
    have hitem : 2 ≤ (writtenItem text).length := by
      rw [writtenItem]
      split <;> simp
    change (itemTokens texts).length + 2 ≤ (writtenItem text ++ writeItems texts).length
    rw [List.length_append]
    omega

theorem length_listTokens_le (texts : List Text) :
    (listTokens texts).length ≤ (writtenList texts).length := by
  cases texts with
  | nil => decide
  | cons text texts => exact Nat.le_succ_of_le (length_itemTokens_le (text :: texts))

theorem length_itemTokens (texts : List Text) : (itemTokens texts).length = 2 * texts.length := by
  induction texts with
  | nil => rfl
  | cons text texts ih =>
    change (itemTokens texts).length + 2 = 2 * (texts.length + 1)
    omega

theorem length_le_listTokens (texts : List Text) : texts.length ≤ (listTokens texts).length := by
  cases texts with
  | nil => decide
  | cons text texts =>
    change _ ≤ (itemTokens (text :: texts)).length
    rw [length_itemTokens]
    omega

end Written

namespace Scan

def atText (tokens : List Token) (rest : Text) (line : Nat) : Scan :=
  { place := ⟨rest, line, 2⟩, tokens := .item :: tokens, indents := [0] }

/-- The hyphen of an item is a token, and the text comes next. -/
theorem exists_item {s : Scan} {tokens : List Token} {rest : Text}
    (h : BeginsLine tokens ('-' :: ' ' :: rest) s) (hrest : StartsToken rest) :
    ∃ s' line, Runs 1 s s' ∧ s'.advance? = some (atText tokens rest line) := by
  obtain ⟨line, hadvance⟩ := h
  refine ⟨{ place := ⟨' ' :: rest, line, 1⟩, tokens := .item :: tokens, indents := [0] }, line,
    .step hadvance rfl ?_, ?_⟩
  · have hplace := Place.goto_char (c := '-') rfl (' ' :: rest) line 0
    have htoken : (atMargin tokens ('-' :: ' ' :: rest) line).scanToken? '-' (' ' :: rest) =
        (atMargin tokens ('-' :: ' ' :: rest) line).scanItem? := by
      cases rest <;> rfl
    have hopen : (atMargin tokens ('-' :: ' ' :: rest) line).openHere? .blockSequence =
        some (atMargin tokens ('-' :: ' ' :: rest) line) := rfl
    rw [htoken, scanItem?, hopen]
    exact congrArg (fun place => some (Scan.mk place (.item :: tokens) [0] true none [])) hplace
  · have hskip : skipWhite false true false 1 (' ' :: rest) = (rest, true) :=
      skipWhite_token hrest false true 2
    exact advance?_eq hskip (Place.goto_char rfl rest line 1) rfl rfl rfl

def textKey (tokens : List Token) (line : Nat) : PossibleKey :=
  { position := tokens.length + 1, line, column := 2, required := false }

theorem scanQuoted?_atText (tokens : List Token) (c : Char) (text : Text) (line : Nat)
    (read? : Text → Option (Text × Text)) :
    (atText tokens (c :: text) line).scanQuoted? read? = (read? text).map fun p =>
      { place := Place.goto ⟨c :: text, line, 2⟩ p.2, tokens := .scalar .quoted p.1 :: .item :: tokens,
        indents := [0], keyAllowed := false, key? := some (textKey tokens line) } := by
  have hnote : (atText tokens (c :: text) line).noteKey? =
      some { atText tokens (c :: text) line with key? := some (textKey tokens line) } := rfl
  rw [scanQuoted?, hnote, Option.bind_eq_bind, Option.bind_some]
  change (read? text).bind _ = _
  cases read? text <;> rfl

theorem scanPlain?_atText (tokens : List Token) (text : Text) (line : Nat) :
    (atText tokens text line).scanPlain? = (readPlain? false 1 text).map fun p =>
      { place := Place.goto ⟨text, line, 2⟩ p.2.1, tokens := .scalar .plain p.1 :: .item :: tokens,
        indents := [0], keyAllowed := p.2.2, key? := some (textKey tokens line) } := by
  have hnote : (atText tokens text line).noteKey? =
      some { atText tokens text line with key? := some (textKey tokens line) } := rfl
  rw [scanPlain?, hnote, Option.bind_eq_bind, Option.bind_some]
  change (readPlain? false 1 text).bind _ = _
  cases readPlain? false 1 text <;> rfl

theorem scanBlock?_atText (tokens : List Token) (c : Char) (text : Text) (line : Nat) :
    (atText tokens (c :: text) line).scanBlock? false =
      (readBlock? false (some 0) text).map fun p =>
        { place := Place.goto ⟨c :: text, line, 2⟩ p.2,
          tokens := .scalar .block p.1 :: .item :: tokens, indents := [0] } := by
  have hdrop : (atText tokens (c :: text) line).dropKey? = some (atText tokens (c :: text) line) := rfl
  rw [scanBlock?, hdrop, Option.bind_eq_bind, Option.bind_some]
  change (readBlock? false (some 0) text).bind _ = _
  cases readBlock? false (some 0) text <;> rfl

theorem isPast_textKey (tokens : List Token) {line line' : Nat} (h : line < line') :
    IsPast line' (some (textKey tokens line)) := by
  intro key hkey
  obtain rfl := Option.some.inj hkey
  exact ⟨rfl, h⟩

/-- A quoted text is read up to the end of its line. -/
theorem exists_quoted {s : Scan} {tokens : List Token} {quote : Char} {body text rest : Text}
    {line : Nat} {read? : Text → Option (Text × Text)}
    (h : s.advance? = some (atText tokens (quote :: (body ++ '\n' :: rest)) line))
    (htoken : (atText tokens (quote :: (body ++ '\n' :: rest)) line).scanToken? quote
      (body ++ '\n' :: rest) =
        (atText tokens (quote :: (body ++ '\n' :: rest)) line).scanQuoted? read?)
    (hread : read? (body ++ '\n' :: rest) = some (text, '\n' :: rest)) (hrest : StartsToken rest) :
    ∃ s', Runs 1 s s' ∧ BeginsLine (.scalar .quoted text :: .item :: tokens) rest s' := by
  obtain ⟨line', column', hplace, hline, -⟩ :=
    Place.exists_goto (quote :: body) ('\n' :: rest) line 2
  rw [scanQuoted?_atText, hread, Option.map_some] at htoken
  refine ⟨_, .step h rfl htoken, ?_⟩
  rw [← List.cons_append, hplace]
  exact beginsLine_feed hrest (isPast_textKey tokens (Nat.lt_succ_of_le hline)) _

/-- A plain text is read together with the end of its line. -/
theorem exists_plain {s : Scan} {tokens : List Token} {c : Char} {text rest : Text} {line : Nat}
    (h : s.advance? = some (atText tokens (c :: (text ++ '\n' :: rest)) line))
    (htoken : (atText tokens (c :: (text ++ '\n' :: rest)) line).scanToken? c (text ++ '\n' :: rest) =
      (atText tokens (c :: (text ++ '\n' :: rest)) line).scanPlain?)
    (hread : readPlain? false 1 (c :: (text ++ '\n' :: rest)) = some (c :: text, rest, true))
    (hrest : StartsToken rest) :
    ∃ s', Runs 1 s s' ∧ BeginsLine (.scalar .plain (c :: text) :: .item :: tokens) rest s' := by
  obtain ⟨line', column', hplace, -, hended⟩ :=
    Place.exists_goto (c :: text ++ ['\n']) rest line 2
  obtain ⟨hbelow, rfl⟩ := hended (any_isBreak_getLast?_line (c :: text))
  rw [scanPlain?_atText, hread, Option.map_some] at htoken
  refine ⟨_, .step h rfl htoken, ?_⟩
  rw [List.append_assoc, List.singleton_append, List.cons_append] at hplace
  rw [hplace]
  exact beginsLine_margin hrest (isPast_textKey tokens hbelow) _

/-- A literal text is read up to the margin of the next line. -/
theorem exists_literal {s : Scan} {tokens : List Token} {body text rest : Text} {line : Nat}
    (h : s.advance? = some (atText tokens ('|' :: (body ++ rest)) line))
    (hread : readBlock? false (some 0) (body ++ rest) = some (text, rest))
    (hended : body.getLast?.any isBreak = true) (hrest : StartsToken rest) :
    ∃ s', Runs 1 s s' ∧ BeginsLine (.scalar .block text :: .item :: tokens) rest s' := by
  obtain ⟨line', column', hplace, -, hmargin⟩ := Place.exists_goto ('|' :: body) rest line 2
  have hlast : ('|' :: body).getLast?.any isBreak = true := by
    cases body with
    | nil => cases hended
    | cons d body => simpa [List.getLast?_cons] using hended
  obtain ⟨-, rfl⟩ := hmargin hlast
  have htoken : (atText tokens ('|' :: (body ++ rest)) line).scanToken? '|' (body ++ rest) =
      (atText tokens ('|' :: (body ++ rest)) line).scanBlock? false := rfl
  rw [scanBlock?_atText, hread, Option.map_some] at htoken
  refine ⟨_, .step h rfl htoken, ?_⟩
  rw [← List.cons_append, hplace]
  exact beginsLine_margin hrest (isPast_none line') _

theorem beginsPlain_of_allowsPlain {c : Char} {text : Text} (h : allowsPlain (c :: text) = true)
    (rest : Text) : BeginsPlain c (text ++ '\n' :: rest) := by
  obtain ⟨hescapes, hbreak, hspace, -, hleading, -⟩ := allowsPlain_iff.1 h
  rw [hasLeadingIndicator, Bool.or_eq_false_iff, Bool.or_eq_false_iff] at hleading
  obtain ⟨⟨-, hindicator⟩, hword⟩ := hleading
  refine ⟨?_, ?_, fun hmark => ?_⟩
  · rw [isWhite_of_isPrintable (isPrintable_of_needsEscapes hescapes c (List.mem_cons_self ..)),
      hbreak c (List.mem_cons_self ..)]
    simpa using hspace
  · intro hc
    exact Bool.eq_false_iff.1 hindicator (List.contains_iff_mem.2 hc)
  · rw [List.contains_iff_mem.2 hmark, Bool.true_and] at hword
    rwa [atWordEnd_append_break]

theorem startsToken_of_allowsPlain {c : Char} {text : Text} (h : allowsPlain (c :: text) = true)
    (rest : Text) : StartsToken (c :: (text ++ '\n' :: rest)) := by
  have hbegin := beginsPlain_of_allowsPlain h rest
  have hc := isPrintable_of_needsEscapes (allowsPlain_iff.1 h).1 c (List.mem_cons_self ..)
  refine startsToken_cons ⟨hbegin.white, ?_, ne_of_class hc rfl⟩ _
  rintro rfl
  exact hbegin.indicator (by decide)

theorem exists_quotedItem {s : Scan} {tokens : List Token} {text body rest : Text} {quote : Char}
    {read? : Text → Option (Text × Text)} (hwritten : writeText text = quote :: body ++ [quote])
    (hquote : isBreak quote = false ∧ isWhite quote = false ∧ quote ≠ '#' ∧ quote ≠ orderMark)
    (htoken : ∀ more line, (atText tokens (quote :: more) line).scanToken? quote more =
      (atText tokens (quote :: more) line).scanQuoted? read?)
    (hread : read? (body ++ quote :: '\n' :: rest) = some (text, '\n' :: rest))
    (h : BeginsLine tokens (writtenItem text ++ rest) s) (hrest : StartsToken rest) :
    ∃ s', Runs 2 s s' ∧ BeginsLine (.scalar .quoted text :: .item :: tokens) rest s' := by
  have hitem : writtenItem text ++ rest =
      '-' :: ' ' :: (quote :: (body ++ [quote] ++ '\n' :: rest)) := by
    rw [writtenItem_line hwritten hquote.1]
    simp
  have hstart := startsToken_cons hquote.2 (body ++ [quote] ++ '\n' :: rest)
  have hbody : body ++ [quote] ++ '\n' :: rest = body ++ quote :: '\n' :: rest := by simp
  rw [hitem] at h
  obtain ⟨s', line, hruns, hadvance⟩ := exists_item h hstart
  obtain ⟨s'', hruns', hbegins⟩ :=
    exists_quoted hadvance (htoken _ line) (by rw [hbody]; exact hread) hrest
  exact ⟨s'', hruns.trans hruns', hbegins⟩

theorem StartsToken.isWhite {text : Text} (h : StartsToken text) :
    ∀ c ∈ text.head?, isWhite c = false :=
  fun c hc => (h c hc).1

theorem exists_literalItem {s : Scan} {tokens : List Token} {text rest : Text}
    (hwritten : writeText text = writeLiteral text) (hne : text ≠ [])
    (hescapes : needsEscapes text = false) (h : BeginsLine tokens (writtenItem text ++ rest) s)
    (hrest : StartsToken rest) :
    ∃ s', Runs 2 s s' ∧ BeginsLine (.scalar .block text :: .item :: tokens) rest s' := by
  have hitem : writtenItem text ++ rest = '-' :: ' ' :: ('|' :: (literalBody text ++ rest)) := by
    have hlast : ('-' :: ' ' :: writeLiteral text).getLast? = text.getLast? :=
      getLast?_behind_literalLines hne
        ('-' :: ' ' :: '|' :: (if needsWidth text then ['2'] else []) ++ signFor text)
    rw [writtenItem, hwritten, hlast]
    split <;> rename_i hended <;> simp [literalBody, writeLiteral, hended]
  have hended : (literalBody text).getLast?.any isBreak = true := by
    rw [literalBody]
    by_cases hended : text.getLast?.any isBreak = true
    · rwa [if_pos hended, List.append_nil, getLast?_behind_literalLines hne]
    · rw [if_neg hended, ← List.cons_append, ← List.append_assoc]
      exact any_isBreak_getLast?_line _
  have hread := readBlock?_literalBody hne (isPrintable_of_needsEscapes hescapes) hrest.isWhite
  rw [hitem] at h
  obtain ⟨s', line, hruns, hadvance⟩ := exists_item h (startsToken_cons (by decide) _)
  obtain ⟨s'', hruns', hbegins⟩ := exists_literal hadvance hread hended hrest
  exact ⟨s'', hruns.trans hruns', hbegins⟩

theorem exists_plainItem {s : Scan} {tokens : List Token} {text rest : Text}
    (hwritten : writeText text = text) (hne : text ≠ []) (hplain : allowsPlain text = true)
    (h : BeginsLine tokens (writtenItem text ++ rest) s) (hrest : StartsToken rest) :
    ∃ s', Runs 2 s s' ∧ BeginsLine (.scalar .plain text :: .item :: tokens) rest s' := by
  have hitem : writtenItem text ++ rest = '-' :: ' ' :: (text ++ '\n' :: rest) := by
    have hsplit := List.dropLast_append_getLast hne
    have hlast := (allowsPlain_iff.1 hplain).2.1 _ (List.getLast_mem hne)
    have hline : text.dropLast ++ [text.getLast hne, '\n'] = text ++ ['\n'] := by
      rw [List.append_cons, hsplit]
    rw [writtenItem_line (hwritten.trans hsplit.symm) hlast, hline]
    simp
  have hread := readPlain?_written hplain rest hrest.isWhite
  have hcolumn : 2 ≠ 0 := by decide
  obtain ⟨c, more, rfl⟩ := List.exists_cons_of_ne_nil hne
  have hbegin := beginsPlain_of_allowsPlain hplain rest
  rw [hitem] at h
  obtain ⟨s', line, hruns, hadvance⟩ := exists_item h (startsToken_of_allowsPlain hplain rest)
  obtain ⟨s'', hruns', hbegins⟩ :=
    exists_plain hadvance (hbegin.scanToken?_eq rfl fun hzero => absurd hzero hcolumn) hread hrest
  exact ⟨s'', hruns.trans hruns', hbegins⟩

/-- Every item is read as its text in its style. -/
theorem exists_text {s : Scan} {tokens : List Token} {text rest : Text}
    (h : BeginsLine tokens (writtenItem text ++ rest) s) (hrest : StartsToken rest) :
    ∃ s', Runs 2 s s' ∧ BeginsLine (.scalar (styleOf text) text :: .item :: tokens) rest s' := by
  rcases writeText_cases text with ⟨hwritten, hstyle, hne, hescapes⟩ |
      ⟨hwritten, hstyle, hne, hplain⟩ | ⟨hwritten, hstyle, hline, hsingle⟩ | ⟨hwritten, hstyle⟩ <;>
    rw [hstyle]
  · exact exists_literalItem hwritten hne hescapes h hrest
  · exact exists_plainItem hwritten hne hplain h hrest
  · have hfeed : some '\n' ≠ some '\'' := by decide
    have hread := @readSingle?_written text ('\n' :: rest) hsingle hline hfeed
    exact exists_quotedItem hwritten (by decide) (fun _ _ => rfl) hread h hrest
  · have hread := readDouble?_written text ('\n' :: rest)
    exact exists_quotedItem hwritten (by decide) (fun _ _ => rfl) hread h hrest

theorem startsToken_writeItems (texts : List Text) {rest : Text} (hrest : StartsToken rest) :
    StartsToken (writeItems texts ++ rest) := by
  cases texts with
  | nil => exact hrest
  | cons text texts =>
    have hitem : ∃ more, writtenItem text = '-' :: more := by
      rw [writtenItem]
      split
      · exact ⟨_, rfl⟩
      · exact ⟨_, rfl⟩
    obtain ⟨more, hmore⟩ := hitem
    have hitems : writeItems (text :: texts) ++ rest = '-' :: (more ++ (writeItems texts ++ rest)) := by
      change writtenItem text ++ writeItems texts ++ rest = _
      rw [hmore, List.append_assoc, List.cons_append]
    rw [hitems]
    exact startsToken_cons (by decide) _

/-- Every list is read as its texts, in their order. -/
theorem exists_items {texts : List Text} {s : Scan} {tokens : List Token} {rest : Text}
    (h : BeginsLine tokens (writeItems texts ++ rest) s) (hrest : StartsToken rest) :
    ∃ s', Runs (itemTokens texts).length s s' ∧
      BeginsLine ((itemTokens texts).reverse ++ tokens) rest s' := by
  induction texts generalizing s tokens with
  | nil => exact ⟨s, fun _ => rfl, h⟩
  | cons text texts ih =>
    have hitems : writeItems (text :: texts) ++ rest =
        writtenItem text ++ (writeItems texts ++ rest) := List.append_assoc ..
    rw [hitems] at h
    obtain ⟨s', hitem, hbegins⟩ := exists_text h (startsToken_writeItems texts hrest)
    obtain ⟨s'', hruns, hended⟩ := ih hbegins
    refine ⟨s'', hitem.trans hruns, ?_⟩
    simpa [itemTokens] using hended

end Scan

end EventText.Yaml
