import EventText.Proofs.Yaml.Items

/-! The entries of a written mapping: keys at the margin, and the values behind them. -/

namespace EventText.Yaml

namespace Scan

def isKeyLetter (c : Char) : Bool :=
  c.isAlpha || c == '_'

/-- A word that is a key wherever a colon follows. -/
structure IsKey (key : Text) : Prop where
  ne_nil : key ≠ []
  letters : key.all isKeyLetter = true
  length_le : key.length ≤ 1024

theorem isWhite_of_isKeyLetter {c : Char} (h : isKeyLetter c = true) : isWhite c = false := by
  have hwhite : c ∉ [' ', '\t', '\n', '\r', '\x85', '\u2028', '\u2029'] :=
    not_mem_of_class h (by decide)
  simpa [isWhite, isGap, isBreak, and_assoc] using hwhite

theorem IsKey.chars {key : Text} (h : IsKey key) : ∀ c ∈ key, isKeyLetter c = true :=
  List.all_eq_true.1 h.letters

theorem IsKey.plain {key : Text} (h : IsKey key) : ∀ c ∈ key, isWhite c = false ∧ c ≠ ':' :=
  fun c hc => ⟨isWhite_of_isKeyLetter (h.chars c hc), ne_of_class (h.chars c hc) rfl⟩

theorem beginsPlain_of_isKeyLetter {c : Char} (h : isKeyLetter c = true) (rest : Text) :
    BeginsPlain c rest := by
  have hmark : c ∉ ['?', ':', '-'] := not_mem_of_class h (by decide)
  exact ⟨isWhite_of_isKeyLetter h, not_mem_of_class h (by decide), fun hc => absurd hc hmark⟩

theorem IsKey.startsToken {key : Text} (h : IsKey key) (rest : Text) : StartsToken (key ++ rest) := by
  obtain ⟨c, more, rfl⟩ := List.exists_cons_of_ne_nil h.ne_nil
  have hc := h.chars c (List.mem_cons_self ..)
  exact startsToken_cons
    ⟨isWhite_of_isKeyLetter hc, ne_of_class hc rfl, ne_of_class hc rfl⟩ _

/-- The key that is pending behind a word at the margin. It is one for sure where a mapping is open. -/
def marginKey (tokens : List Token) (indents : List Nat) (line : Nat) : PossibleKey :=
  { position := tokens.length, line, column := 0, required := indents.head? == some 0 }

def atColon (tokens : List Token) (indents : List Nat) (key rest : Text) (line : Nat) : Scan :=
  { place := ⟨':' :: rest, line, key.length⟩, tokens := .scalar .plain key :: tokens, indents
    keyAllowed := false, key? := some (marginKey tokens indents line) }

def inLine (tokens : List Token) (rest : Text) (line column : Nat) : Scan :=
  { place := ⟨rest, line, column⟩, tokens, indents := [0], keyAllowed := false }

/-- The tokens up to the value of a key. The first key of a mapping opens it. -/
def keyTokens (indents : List Nat) (tokens : List Token) (key : Text) : List Token :=
  .value :: .scalar .plain key :: .key ::
    ((if indents = [] then [.blockMapping] else []) ++ tokens)

theorem scanPlain?_key {key rest : Text} (hkey : ∀ c ∈ key, isWhite c = false ∧ c ≠ ':')
    (hrest : atWordEnd rest = true) (tokens : List Token) (indents : List Nat) (line : Nat) :
    Scan.scanPlain? { place := ⟨key ++ ':' :: rest, line, 0⟩, tokens, indents } =
      some (atColon tokens indents key rest line) := by
  have hline : ∀ c ∈ key, isBreak c = false := by
    intro c hc
    exact (Bool.or_eq_false_iff.1 (hkey c hc).1).2
  have hplace : Place.goto ⟨key ++ ':' :: rest, line, 0⟩ (':' :: rest) =
      ⟨':' :: rest, line, key.length⟩ := by
    rw [Place.goto_line key hline, Nat.zero_add]
  rw [scanPlain?]
  change (readPlain? false _ (key ++ ':' :: rest)).bind _ = _
  rw [readPlain?_key hkey hrest]
  exact congrArg (fun place => some (Scan.mk place _ _ _ _ _)) hplace

/-- A word that is not too long is still pending at the colon. -/
theorem advance?_atColon {indents : List Nat} (hindents : indents = [] ∨ indents = [0]) {key : Text}
    (hlength : key.length ≤ 1024) (tokens : List Token) (rest : Text) (line : Nat) :
    (atColon tokens indents key rest line).advance? =
      some (atColon tokens indents key rest line) := by
  have hstart : StartsToken (':' :: rest) := startsToken_cons (by decide) rest
  have hfresh : isStale ⟨':' :: rest, line, key.length⟩ (marginKey tokens indents line) = false := by
    simp [isStale, marginKey, hlength]
  refine advance?_eq (skipWhite_token hstart false false _) (Place.goto_self ..) ?_ rfl
    ?_
  · rw [atColon, refresh?, hfresh]
    rfl
  · rcases hindents with rfl | rfl <;> simp [openAt, atColon]

theorem scanToken?_colon {s : Scan} {rest : Text} (hflow : s.inFlow = false)
    (hcolumn : s.place.column ≠ 0) (hrest : atWordEnd rest = true) :
    s.scanToken? ':' rest = s.scanValue? := by
  simp [scanToken?, hflow, hcolumn, hrest]

/-- The colon turns the word into a key. -/
theorem scanValue?_atColon {indents : List Nat} (hindents : indents = [] ∨ indents = [0])
    (tokens : List Token) (key rest : Text) (line : Nat) :
    (atColon tokens indents key rest line).scanValue? =
      some (inLine (keyTokens indents tokens key) rest line (key.length + 1)) := by
  have hcolon : Place.goto ⟨':' :: rest, line, key.length⟩ rest = ⟨rest, line, key.length + 1⟩ :=
    Place.goto_char rfl rest line key.length
  have hopening : tokens.length + 1 + 1 - tokens.length = 2 := by omega
  rw [scanValue?]
  rcases hindents with rfl | rfl <;>
    simp [atColon, marginKey, openBlock, isDeeper, inFlow, inLine, keyTokens, skip, goto, emit, allowKey,
      hcolon, hopening]

/-- A word at the margin and a colon behind it are a key. -/
theorem runs_key {s : Scan} {tokens : List Token} {indents : List Nat} {key rest : Text} {line : Nat}
    (h : s.advance? = some { place := ⟨key ++ ':' :: rest, line, 0⟩, tokens, indents })
    (hindents : indents = [] ∨ indents = [0]) (hkey : IsKey key) (hrest : atWordEnd rest = true) :
    Runs 2 s (inLine (keyTokens indents tokens key) rest line (key.length + 1)) := by
  have hscan := scanPlain?_key hkey.plain hrest tokens indents line
  obtain ⟨c, more, rfl⟩ := List.exists_cons_of_ne_nil hkey.ne_nil
  have hc := hkey.chars c (List.mem_cons_self ..)
  have htoken : Scan.scanToken? { place := ⟨c :: more ++ ':' :: rest, line, 0⟩, tokens, indents } c
      (more ++ ':' :: rest) = _ :=
    (beginsPlain_of_isKeyLetter hc _).scanToken?_eq rfl fun _ =>
      ⟨ne_of_class hc rfl, ne_of_class hc rfl⟩
  refine (Runs.step h rfl (htoken.trans hscan)).trans
    (.step (advance?_atColon hindents hkey.length_le ..) rfl ?_)
  rw [scanToken?_colon rfl (Nat.succ_ne_zero _) hrest, scanValue?_atColon hindents]

theorem advance?_inLine {rest : Text} (hrest : StartsToken rest) (tokens : List Token)
    (line column : Nat) :
    (inLine tokens (' ' :: rest) line column).advance? =
      some (inLine tokens rest line (column + 1)) := by
  have hskip : skipWhite false false false column (' ' :: rest) = (rest, false) :=
    skipWhite_token hrest false false (column + 1)
  refine advance?_eq hskip (Place.goto_char rfl rest line column) rfl rfl ?_
  simp [openAt, inLine]

/-- A plain value behind a key is read together with the end of its line. -/
theorem exists_plainValue {c : Char} {text : Text} (hplain : allowsPlain (c :: text) = true)
    {rest : Text} (hrest : StartsToken rest) (tokens : List Token) (line column : Nat) :
    ∃ s, Runs 1 (inLine tokens (' ' :: c :: (text ++ '\n' :: rest)) line column) s ∧
      BeginsLine (.scalar .plain (c :: text) :: tokens) rest s := by
  obtain ⟨line', column', hplace, -, hended⟩ :=
    Place.exists_goto (c :: text ++ ['\n']) rest line (column + 1)
  obtain ⟨-, rfl⟩ := hended (any_isBreak_getLast?_line (c :: text))
  have hstart := startsToken_of_allowsPlain hplain rest
  have hread := readPlain?_written hplain rest hrest.isWhite
  have hscan : (inLine tokens (c :: (text ++ '\n' :: rest)) line (column + 1)).scanPlain? =
      some { place := ⟨rest, line', 0⟩, tokens := .scalar .plain (c :: text) :: tokens,
             indents := [0] } := by
    rw [scanPlain?]
    change (readPlain? false 1 (c :: text ++ '\n' :: rest)).bind _ = _
    rw [hread]
    rw [List.append_assoc] at hplace
    exact congrArg (fun place => some (Scan.mk place _ _ _ _ _)) hplace
  have htoken : (inLine tokens (c :: (text ++ '\n' :: rest)) line (column + 1)).scanToken? c
      (text ++ '\n' :: rest) = _ :=
    (beginsPlain_of_allowsPlain hplain rest).scanToken?_eq rfl fun hzero => absurd hzero (Nat.succ_ne_zero column)
  exact ⟨_, .step (advance?_inLine hstart tokens line column) rfl (htoken.trans hscan),
    beginsLine_margin hrest (isPast_none line') _⟩

def inBrackets (tokens : List Token) (rest : Text) (line column : Nat) : Scan :=
  { place := ⟨rest, line, column⟩, tokens := .openSequence :: tokens, indents := [0]
    outerKeys := [none] }

/-- A pair of brackets behind a key is read as an empty list. -/
theorem exists_emptyList {rest : Text} (hrest : StartsToken rest) (tokens : List Token)
    (line column : Nat) :
    ∃ s, Runs 2 (inLine tokens (' ' :: '[' :: ']' :: '\n' :: rest) line column) s ∧
      BeginsLine (.closeSequence :: .openSequence :: tokens) rest s := by
  have hstart : StartsToken ('[' :: ']' :: '\n' :: rest) := startsToken_cons (by decide) _
  have hopen : (inLine tokens ('[' :: ']' :: '\n' :: rest) line (column + 1)).scanToken? '['
      (']' :: '\n' :: rest) = some (inBrackets tokens (']' :: '\n' :: rest) line (column + 2)) := by
    have hplace := Place.goto_char (c := '[') rfl (']' :: '\n' :: rest) line (column + 1)
    exact congrArg (fun place => some (Scan.mk place _ _ _ _ _)) hplace
  have hadvance : (inBrackets tokens (']' :: '\n' :: rest) line (column + 2)).advance? =
      some (inBrackets tokens (']' :: '\n' :: rest) line (column + 2)) := by
    refine advance?_eq (skipWhite_token (startsToken_cons (by decide) _) true true _)
      (Place.goto_self ..) rfl rfl ?_
    simp [openAt, inBrackets]
  have hclose : (inBrackets tokens (']' :: '\n' :: rest) line (column + 2)).scanToken? ']'
      ('\n' :: rest) =
      some (inLine (.closeSequence :: .openSequence :: tokens) ('\n' :: rest) line (column + 3)) := by
    have hplace := Place.goto_char (c := ']') rfl ('\n' :: rest) line (column + 2)
    exact congrArg (fun place => some (Scan.mk place _ _ _ _ _)) hplace
  exact ⟨_, (Runs.step (advance?_inLine hstart tokens line column) rfl hopen).trans
    (.step hadvance rfl hclose), beginsLine_feed hrest (isPast_none (line + 1)) _⟩

theorem atWordEnd_writtenList (texts : List Text) (rest : Text) :
    atWordEnd (writtenList texts ++ rest) = true := by
  cases texts <;> rfl

/-- A list behind a key is read up to the line behind it. -/
theorem exists_list {rest : Text} (hrest : StartsToken rest) (texts : List Text)
    (tokens : List Token) (line column : Nat) :
    ∃ s, Runs (listTokens texts).length (inLine tokens (writtenList texts ++ rest) line column) s ∧
      BeginsLine ((listTokens texts).reverse ++ tokens) rest s := by
  cases texts with
  | nil => exact exists_emptyList hrest tokens line column
  | cons text texts =>
    refine exists_items ?_ hrest
    exact beginsLine_feed (startsToken_writeItems _ hrest) (isPast_none (line + 1)) tokens

theorem exists_listEntry {s : Scan} {tokens : List Token} {indents : List Nat} {key rest : Text}
    {texts : List Text} {line : Nat}
    (h : s.advance? = some
      { place := ⟨key ++ ':' :: (writtenList texts ++ rest), line, 0⟩, tokens, indents })
    (hindents : indents = [] ∨ indents = [0]) (hkey : IsKey key) (hrest : StartsToken rest) :
    ∃ s', Runs ((listTokens texts).length + 2) s s' ∧
      BeginsLine ((listTokens texts).reverse ++ keyTokens indents tokens key) rest s' := by
  have hruns := runs_key h hindents hkey (atWordEnd_writtenList texts rest)
  obtain ⟨s', hlist, hbegins⟩ := exists_list hrest texts (keyTokens indents tokens key) line
    (key.length + 1)
  exact ⟨s', hruns.trans hlist, hbegins⟩

theorem exists_wordEntry {s : Scan} {tokens : List Token} {indents : List Nat} {key word rest : Text}
    {line : Nat}
    (h : s.advance? = some
      { place := ⟨key ++ ':' :: ' ' :: (word ++ '\n' :: rest), line, 0⟩, tokens, indents })
    (hindents : indents = [] ∨ indents = [0]) (hkey : IsKey key) (hne : word ≠ [])
    (hplain : allowsPlain word = true) (hrest : StartsToken rest) :
    ∃ s', Runs 3 s s' ∧
      BeginsLine (.scalar .plain word :: keyTokens indents tokens key) rest s' := by
  have hruns := runs_key h hindents hkey rfl
  obtain ⟨c, word, rfl⟩ := List.exists_cons_of_ne_nil hne
  obtain ⟨s', hword, hbegins⟩ := exists_plainValue hplain hrest (keyTokens indents tokens key) line
    (key.length + 1)
  exact ⟨s', hruns.trans hword, hbegins⟩

/-- At the end of the text the mapping is closed. -/
theorem finish?_end {s : Scan} {tokens : List Token} (h : BeginsLine tokens [] s) (fuel : Nat) :
    finish? (fuel + 1) s = some (.blockEnd :: tokens).reverse := by
  obtain ⟨line, hadvance⟩ := h
  rw [finish?, hadvance]
  rfl

end Scan

end EventText.Yaml
