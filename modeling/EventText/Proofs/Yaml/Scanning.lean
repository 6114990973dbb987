import EventText.Yaml.Token
import Mathlib.Data.Bool.AllAny

/-! How a scan goes from one token to the next: over which characters, and to which line and column.
Every line of a written mapping begins at the margin. -/

namespace EventText.Yaml

namespace Place

theorem goto_append (skipped rest : Text) (line column : Nat) :
    goto ⟨skipped ++ rest, line, column⟩ rest =
      walk line column skipped.length (skipped ++ rest) := by
  rw [goto, List.length_append, Nat.add_sub_cancel]

/-- Passing over a text does not lead to a line above, and behind a break to the margin. -/
theorem exists_goto (skipped rest : Text) (line column : Nat) :
    ∃ line' column', goto ⟨skipped ++ rest, line, column⟩ rest = ⟨rest, line', column'⟩ ∧
      line ≤ line' ∧ (skipped.getLast?.any isBreak → line < line' ∧ column' = 0) := by
  rw [goto_append]
  induction skipped generalizing line column with
  | nil => exact ⟨line, column, by rw [List.nil_append]; cases rest <;> rfl, Nat.le_refl line, nofun⟩
  | cons c skipped ih =>
    rw [List.cons_append, List.length_cons, walk]
    split
    · rename_i hbreak
      obtain ⟨line', column', hwalk, hline, hended⟩ := ih (line + 1) 0
      refine ⟨line', column', hwalk, by omega, fun hlast => ?_⟩
      cases skipped with
      | nil =>
        have hplace : Place.mk rest (line + 1) 0 = ⟨rest, line', column'⟩ := by
          rw [← hwalk, List.nil_append]
          cases rest <;> rfl
        obtain ⟨-, rfl, rfl⟩ := Place.mk.inj hplace
        exact ⟨Nat.lt_succ_self line, rfl⟩
      | cons d skipped =>
        obtain ⟨hbelow, hmargin⟩ := hended (by simpa [List.getLast?_cons] using hlast)
        exact ⟨by omega, hmargin⟩
    · rename_i hbreak
      obtain ⟨line', column', hwalk, hline, hended⟩ := ih line (column + 1)
      refine ⟨line', column', hwalk, hline, fun hlast => ?_⟩
      cases skipped with
      | nil => exact absurd (by simpa using hlast) hbreak
      | cons d skipped => exact hended (by simpa [List.getLast?_cons] using hlast)

theorem goto_line (skipped : Text) (h : ∀ c ∈ skipped, isBreak c = false) (rest : Text)
    (line column : Nat) :
    goto ⟨skipped ++ rest, line, column⟩ rest = ⟨rest, line, column + skipped.length⟩ := by
  rw [goto_append]
  induction skipped generalizing column with
  | nil => cases rest <;> rfl
  | cons c skipped ih =>
    obtain ⟨hc, hskipped⟩ := List.forall_mem_cons.1 h
    rw [List.cons_append, List.length_cons, walk, if_neg (by simp [hc]), ih hskipped]
    congr 1
    omega

theorem goto_self (rest : Text) (line column : Nat) :
    goto ⟨rest, line, column⟩ rest = ⟨rest, line, column⟩ :=
  goto_line [] (List.forall_mem_nil _) rest line column

theorem goto_char {c : Char} (h : isBreak c = false) (rest : Text) (line column : Nat) :
    goto ⟨c :: rest, line, column⟩ rest = ⟨rest, line, column + 1⟩ :=
  goto_line [c] (List.forall_mem_singleton.2 h) rest line column

end Place

namespace Scan

def StartsToken (text : Text) : Prop :=
  ∀ c ∈ text.head?, isWhite c = false ∧ c ≠ '#' ∧ c ≠ orderMark

theorem startsToken_cons {c : Char} (h : isWhite c = false ∧ c ≠ '#' ∧ c ≠ orderMark) (rest : Text) :
    StartsToken (c :: rest) := by
  intro d hd
  rw [← Option.some.inj hd]
  exact h

theorem skipWhite_token {text : Text} (h : StartsToken text) (flow allowed : Bool) (column : Nat) :
    skipWhite flow allowed false column text = (text, allowed) := by
  cases text with
  | nil => rfl
  | cons c rest =>
    obtain ⟨hwhite, hcomment, hmark⟩ := h c rfl
    simp only [isWhite, isGap, Bool.or_eq_false_iff, beq_eq_false_iff_ne] at hwhite
    rw [skipWhite, if_neg (by simp [hwhite.2]), if_neg (by simp [hcomment]),
      if_neg (by simp [hwhite.1, hmark])]

/-- After some steps, one for each token, the reading of the stream goes on from `s'`. -/
def Runs (steps : Nat) (s s' : Scan) : Prop :=
  ∀ fuel, finish? (fuel + steps) s = finish? fuel s'

theorem Runs.trans {m n : Nat} {a b c : Scan} (h : Runs m a b) (h' : Runs n b c) :
    Runs (n + m) a c := by
  intro fuel
  rw [← Nat.add_assoc, h, h']

theorem Runs.step {s s' s'' : Scan} {c : Char} {rest : Text} (hadvance : s.advance? = some s')
    (hrest : s'.place.rest = c :: rest) (htoken : s'.scanToken? c rest = some s'') :
    Runs 1 s s'' := by
  intro fuel
  rw [finish?, hadvance]
  simp only [Option.bind_eq_bind, Option.bind_some, hrest, htoken]

/-- Going to the next token: white space is passed over, the pending key is looked at again, and no
collection is closed. -/
theorem advance?_eq {s : Scan} {rest : Text} {allowed : Bool} {place : Place}
    {key? : Option PossibleKey}
    (hskip : skipWhite s.inFlow s.keyAllowed false s.place.column s.place.rest = (rest, allowed))
    (hplace : s.place.goto rest = place) (hkey : refresh? place s.key? = some key?)
    (houter : s.outerKeys.mapM (refresh? place) = some s.outerKeys)
    (hindents : openAt place.column s.indents = s.indents) :
    s.advance? = some { s with place, keyAllowed := allowed, key? } := by
  subst hplace
  rw [advance?, hskip]
  simp only [goto, allowKey, refreshKeys?, hkey, houter, Option.bind_eq_bind, Option.bind_some,
    Option.pure_def, closeDeeper, closeTo, hindents, Nat.sub_self, List.replicate_zero,
    List.nil_append, ite_self]

theorem advance?_start {text : Text} (h : StartsToken text) :
    advance? { place := { rest := text } } = some { place := { rest := text } } :=
  advance?_eq (skipWhite_token h false true 0) (Place.goto_self text 0 0) rfl rfl rfl

section Margin

/-- A pending key on a line above that may turn out to be none. -/
def IsPast (line : Nat) (key? : Option PossibleKey) : Prop :=
  ∀ key ∈ key?, key.required = false ∧ key.line < line

theorem isPast_none (line : Nat) : IsPast line none := by
  intro key hkey
  cases hkey

theorem refresh?_past {place : Place} {key? : Option PossibleKey} (h : IsPast place.line key?) :
    refresh? place key? = some none := by
  cases key? with
  | none => rfl
  | some key =>
    obtain ⟨hrequired, hline⟩ := h key rfl
    simp [refresh?, isStale, hrequired, hline]

def atMargin (tokens : List Token) (rest : Text) (line : Nat) : Scan :=
  { place := ⟨rest, line, 0⟩, tokens, indents := [0] }

def BeginsLine (tokens : List Token) (rest : Text) (s : Scan) : Prop :=
  ∃ line, s.advance? = some (atMargin tokens rest line)

theorem beginsLine_margin {rest : Text} (hrest : StartsToken rest) {line : Nat}
    {key? : Option PossibleKey} (hkey : IsPast line key?) (tokens : List Token) :
    BeginsLine tokens rest { place := ⟨rest, line, 0⟩, tokens, indents := [0], key? } := by
  refine ⟨line, advance?_eq (skipWhite_token hrest false true 0) ?_ (refresh?_past hkey) rfl rfl⟩
  exact Place.goto_self rest line 0

theorem beginsLine_feed {rest : Text} (hrest : StartsToken rest) {line column : Nat}
    {key? : Option PossibleKey} (hkey : IsPast (line + 1) key?) (tokens : List Token) :
    BeginsLine tokens rest
      { place := ⟨'\n' :: rest, line, column⟩, tokens, indents := [0], keyAllowed := false, key? } := by
  have hskip : skipWhite false false false column ('\n' :: rest) = (rest, true) :=
    skipWhite_token hrest false true 0
  have hplace : Place.goto ⟨'\n' :: rest, line, column⟩ rest = ⟨rest, line + 1, 0⟩ := by
    refine (Place.goto_append ['\n'] rest line column).trans ?_
    cases rest <;> rfl
  exact ⟨line + 1, advance?_eq hskip hplace (refresh?_past hkey) rfl rfl⟩

end Margin

section Plain

def indicators : List Char :=
  "#,[]\x7b\x7d&*!|>'\"%@\x60".toList

structure BeginsPlain (c : Char) (rest : Text) : Prop where
  white : isWhite c = false
  indicator : c ∉ indicators
  /-- A question mark, a colon or a hyphen stands at the front of a word. -/
  word : c ∈ ['?', ':', '-'] → atWordEnd rest = false

theorem BeginsPlain.startsPlain {c : Char} {rest : Text} (h : BeginsPlain c rest) :
    startsPlain false c rest = true := by
  by_cases hmark : c ∈ ['?', ':', '-']
  · have hrest := h.word hmark
    have hgap : rest.head?.any isGap = false := by
      cases rest with
      | nil => rfl
      | cons d rest => exact (Bool.or_eq_false_iff.1 hrest).1
    simp only [List.mem_cons, List.not_mem_nil, or_false] at hmark
    rcases hmark with rfl | rfl | rfl <;> simp [Scan.startsPlain, hrest, hgap]
  · have hindicator : isIndicator c = false := by
      have hall : c ∉ "-?:,[]\x7b\x7d#&*!|>'\"%@\x60".toList := by
        intro hc
        have hsplit : ∀ d ∈ "-?:,[]\x7b\x7d#&*!|>'\"%@\x60".toList,
            d ∈ ['?', ':', '-'] ∨ d ∈ indicators := List.all_iff_forall_prop.1 (by decide)
        exact (hsplit c hc).elim hmark h.indicator
      rw [isIndicator, Bool.eq_false_iff]
      exact fun hc => hall (List.contains_iff_mem.1 hc)
    simp [Scan.startsPlain, h.white, hindicator]

theorem isMarker_eq_false {mark c : Char} (h : c ≠ mark) (rest : Text) :
    isMarker mark (c :: rest) = false := by
  rcases rest with _ | ⟨d, _ | ⟨e, rest⟩⟩
  · rfl
  · rfl
  · simp [isMarker, h]

/-- A plain scalar begins with such a character, unless it marks the margin of a document. -/
theorem BeginsPlain.scanToken?_eq {s : Scan} {c : Char} {rest : Text} (h : BeginsPlain c rest)
    (hflow : s.inFlow = false) (hcolumn : s.place.column = 0 → c ≠ '-' ∧ c ≠ '.') :
    s.scanToken? c rest = s.scanPlain? := by
  have hne (d : Char) (hd : d ∈ indicators) : c ≠ d := fun heq => h.indicator (heq ▸ hd)
  have hmark (d : Char) (hd : d ∈ ['?', ':', '-']) :
      ¬ (decide (c = d) && atWordEnd rest) = true := by
    rw [Bool.and_eq_true, decide_eq_true_eq]
    rintro ⟨rfl, hends⟩
    rw [h.word hd] at hends
    cases hends
  have hmargin (mark : Char) (hd : s.place.column = 0 → c ≠ mark) :
      ¬ (decide (s.place.column = 0) && isMarker mark (c :: rest)) = true := by
    rw [Bool.and_eq_true, decide_eq_true_eq]
    rintro ⟨hzero, hends⟩
    rw [isMarker_eq_false (hd hzero)] at hends
    cases hends
  rw [scanToken?, if_neg (by simp [hne '%' (by decide)]), if_neg (hmargin '-' (hcolumn · |>.1)),
    if_neg (hmargin '.' (hcolumn · |>.2)),
    if_neg (hne '[' (by decide)), if_neg (hne '\x7b' (by decide)), if_neg (hne ']' (by decide)),
    if_neg (hne '\x7d' (by decide)), if_neg (hne ',' (by decide)), if_neg (hmark '-' (by decide)),
    hflow, Bool.false_or, if_neg (hmark '?' (by decide)), if_neg (hmark ':' (by decide)),
    if_neg (hne '*' (by decide)), if_neg (hne '&' (by decide)), if_neg (hne '!' (by decide)),
    if_neg (by simp [hne '|' (by decide)]), if_neg (by simp [hne '>' (by decide)]),
    if_neg (hne '\'' (by decide)), if_neg (hne '"' (by decide)), if_pos h.startsPlain]

end Plain

end Scan

end EventText.Yaml
