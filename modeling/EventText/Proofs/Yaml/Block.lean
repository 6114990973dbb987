import EventText.Proofs.Text.Runs
import EventText.Proofs.Yaml.Characters

/-! Literal scalars read back. Each line with content stands behind two spaces, which the reader takes
for its indentation; the header says so where the first line could mislead it, and its sign restores
the breaks at the end. -/

namespace EventText.Yaml

section Lead

theorem readLead?_breaks {breaks : Text} (h : ∀ c ∈ breaks, isBreak c = true) (width widest : Nat)
    (text : Text) :
    readLead? (some width) 0 widest (breaks ++ text) =
      (readLead? (some width) 0 widest text).map fun lead =>
        { lead with breaks := breaks ++ lead.breaks } := by
  induction breaks with
  | nil => simp
  | cons c breaks ih =>
    obtain ⟨hc, hbreaks⟩ := List.forall_mem_cons.1 h
    have hspace : c ≠ ' ' := by
      rintro rfl
      cases hc
    have htab : c ≠ '\t' := by
      rintro rfl
      cases hc
    rw [List.cons_append, readLead?, if_neg (by simp [hspace]), if_neg (by simp [htab]), if_pos hc,
      Nat.max_zero, ih hbreaks, Option.map_map]
    rfl

theorem readLead?_content {c : Char} (h : isBreak c = false) (widest : Nat) (text : Text) :
    readLead? (some 2) 0 widest (indentation ++ c :: text) =
      some ⟨[], max widest 2, 2, c :: text⟩ := by
  have hpast : isIndenting (some 2) 2 = false := rfl
  change readLead? (some 2) 2 widest (c :: text) = _
  rw [readLead?, hpast, if_neg (by simp), if_neg (by simp), if_neg (by simp [h])]

theorem readLead?_margin {text : Text} (h : ∀ c ∈ text.head?, isWhite c = false) (widest : Nat) :
    readLead? (some 2) 0 widest text = some ⟨[], widest, 0, text⟩ := by
  cases text with
  | nil => rw [readLead?, Nat.max_zero]
  | cons c rest =>
    have hc := h c rfl
    rw [isWhite, isGap, Bool.or_eq_false_iff, Bool.or_eq_false_iff, beq_eq_false_iff_ne,
      beq_eq_false_iff_ne] at hc
    rw [readLead?, if_neg (by simp [hc]), if_neg (by simp [hc]), if_neg (by simp [hc]),
      Nat.max_zero]

theorem readLead?_first {c : Char} (hspace : c ≠ ' ') (htab : c ≠ '\t') (h : isBreak c = false)
    (text : Text) :
    readLead? none 0 0 (indentation ++ c :: text) = some ⟨[], 2, 2, c :: text⟩ := by
  change readLead? none 2 0 (c :: text) = _
  rw [readLead?, if_neg (by simp [hspace]), if_neg (by simp [htab]), if_neg (by simp [h])]
  rfl

end Lead

section Lines

theorem literalLines_breaks {breaks : Text} (h : ∀ c ∈ breaks, isBreak c = true) (text : Text) :
    literalLines true (breaks ++ text) = breaks ++ literalLines true text := by
  induction breaks with
  | nil => rfl
  | cons c breaks ih =>
    obtain ⟨hc, hbreaks⟩ := List.forall_mem_cons.1 h
    rw [List.cons_append, literalLines, if_pos hc, ih hbreaks, List.cons_append]

theorem literalLines_line {line : Text} (h : ∀ c ∈ line, isBreak c = false) (text : Text) :
    literalLines false (line ++ text) = line ++ literalLines false text := by
  induction line with
  | nil => rfl
  | cons c line ih =>
    obtain ⟨hc, hline⟩ := List.forall_mem_cons.1 h
    rw [List.cons_append, literalLines, if_neg (by simp [hc]), ih hline]
    rfl

theorem literalLines_feed (afterBreak : Bool) (text : Text) :
    literalLines afterBreak (text ++ ['\n']) = literalLines afterBreak text ++ ['\n'] := by
  induction text generalizing afterBreak with
  | nil => rfl
  | cons c text ih =>
    rw [List.cons_append, literalLines, literalLines]
    split
    · rw [ih, List.cons_append]
    · rw [ih, List.append_assoc, List.cons_append]

theorem cutLine_break {line : Text} (h : ∀ c ∈ line, isBreak c = false) {b : Char}
    (hb : isBreak b = true) (text : Text) : cutLine (line ++ b :: text) = (line, [b], text) := by
  have hline : ∀ c ∈ line, (!isBreak c) = true := fun c hc => by rw [h c hc]; rfl
  have hstop := Text.head?_cons_false (p := (!isBreak ·)) (c := b) (by simp [hb]) text
  rw [cutLine, Text.dropWhile_exact hline hstop, Text.takeWhile_exact hline hstop]

theorem readLines?_done {chomping : Chomping} {lead : Lead} {indent : Nat} (h : lead.column ≠ indent)
    (folded blank : Bool) (first : Text) :
    readLines? folded chomping indent first blank lead =
      some (chomping.tail first lead.breaks, lead.rest) := by
  unfold readLines?
  split
  · rename_i heq
    rw [heq]
  · rename_i heq
    rw [if_neg h, heq]

theorem readLines?_content {chomping : Chomping} {breaks : Text} {widest indent : Nat} {c : Char}
    {text : Text} {next : Lead}
    (hnext : readLead? (some indent) 0 0 (cutLine (c :: text)).2.2 = some next) (blank : Bool)
    (first : Text) :
    readLines? false chomping indent first blank ⟨breaks, widest, indent, c :: text⟩ =
      (readLines? false chomping indent (cutLine (c :: text)).2.1 (isGap c) next).map fun p =>
        (first ++ breaks ++ (cutLine (c :: text)).1 ++ p.1, p.2) := by
  rw [readLines?]
  dsimp only
  rw [if_pos rfl]
  split
  · rename_i heq
    rw [hnext] at heq
    cases heq
  · rename_i heq
    obtain rfl := Option.some.inj (hnext.symm.trans heq)
    cases readLines? false chomping indent (cutLine (c :: text)).2.1 (isGap c) next <;> rfl

end Lines

section Scalars

/-- The text has content, and its last line is not ended. -/
def EndsOpen (text : Text) : Prop :=
  ∃ before last, text = before ++ [last] ∧ isBreak last = false

theorem EndsOpen.exists_line {text : Text} (h : EndsOpen text) :
    ∃ breaks c line, (∀ d ∈ breaks, isBreak d = true) ∧ (∀ d ∈ c :: line, isBreak d = false) ∧
      (text = breaks ++ c :: line ∨
        ∃ b more, isBreak b = true ∧ EndsOpen more ∧ text = breaks ++ c :: (line ++ b :: more)) := by
  obtain ⟨before, last, rfl, hlast⟩ := h
  induction before with
  | nil => exact ⟨[], last, [], nofun, by simpa using hlast, .inl rfl⟩
  | cons d before ih =>
    obtain ⟨breaks, c, line, hbreaks, hline, htext⟩ := ih
    by_cases hd : isBreak d = true
    · -- one empty line more
      refine ⟨d :: breaks, c, line, List.forall_mem_cons.2 ⟨hd, hbreaks⟩, hline, ?_⟩
      rcases htext with htext | ⟨b, more, hb, hmore, htext⟩
      · exact .inl (congrArg (d :: ·) htext)
      · exact .inr ⟨b, more, hb, hmore, congrArg (d :: ·) htext⟩
    · rw [Bool.not_eq_true] at hd
      cases breaks with
      | nil =>
        -- the line is longer by one
        refine ⟨[], d, c :: line, nofun, List.forall_mem_cons.2 ⟨hd, hline⟩, ?_⟩
        rcases htext with htext | ⟨b, more, hb, hmore, htext⟩
        · exact .inl (congrArg (d :: ·) htext)
        · exact .inr ⟨b, more, hb, hmore, congrArg (d :: ·) htext⟩
      | cons b breaks =>
        -- the line is ended by the break
        have hb := hbreaks b (List.mem_cons_self ..)
        have hhead : (before ++ [last]).head? = some b := by
          rcases htext with htext | ⟨_, _, -, -, htext⟩ <;> rw [htext] <;> rfl
        cases before with
        | nil =>
          rw [Option.some.inj hhead, hb] at hlast
          cases hlast
        | cons e before =>
          obtain rfl : e = b := Option.some.inj hhead
          exact ⟨[], d, [], nofun, by simpa using hd,
            .inr ⟨e, before ++ [last], hb, ⟨before, last, rfl, hlast⟩, rfl⟩⟩

theorem readLead?_line {empty line : Text} {c : Char} (hempty : ∀ d ∈ empty, isBreak d = true)
    (hline : ∀ d ∈ c :: line, isBreak d = false) (rest after : Text) :
    readLead? (some 2) 0 0 (literalLines true (empty ++ c :: (line ++ rest)) ++ after) =
      some ⟨empty, 2, 2, c :: (line ++ (literalLines false rest ++ after))⟩ := by
  obtain ⟨hc, hmore⟩ := List.forall_mem_cons.1 hline
  have hwritten : literalLines true (empty ++ c :: (line ++ rest)) ++ after =
      empty ++ (indentation ++ c :: (line ++ (literalLines false rest ++ after))) := by
    rw [literalLines_breaks hempty, literalLines, if_neg (by simp [hc]), literalLines_line hmore]
    simp
  rw [hwritten, readLead?_breaks hempty, readLead?_content hc]
  simp

/-- A line with its break is read, and the lines go on from the lead of the next. -/
theorem readLines?_line {chomping : Chomping} {line rest : Text} {c d : Char} {next : Lead}
    (hline : ∀ e ∈ c :: line, isBreak e = false) (hd : isBreak d = true)
    (hnext : readLead? (some 2) 0 0 rest = some next) (empty first : Text) (widest : Nat)
    (blank : Bool) :
    readLines? false chomping 2 first blank ⟨empty, widest, 2, c :: (line ++ d :: rest)⟩ =
      (readLines? false chomping 2 [d] (isGap c) next).map fun p =>
        (first ++ empty ++ (c :: line) ++ p.1, p.2) := by
  have hcut : cutLine (c :: (line ++ d :: rest)) = (c :: line, [d], rest) :=
    cutLine_break hline hd rest
  rw [readLines?_content (by rw [hcut]; exact hnext), hcut]

/-- The breaks at the end of a text, up to the margin of the next line. -/
theorem readLead?_end {breaks after : Text} (hbreaks : ∀ c ∈ breaks, isBreak c = true)
    (hafter : ∀ c ∈ after.head?, isWhite c = false) :
    readLead? (some 2) 0 0 (literalLines true breaks ++ after) = some ⟨breaks, 0, 0, after⟩ := by
  have hlines : literalLines true breaks = breaks := by
    simpa [literalLines] using literalLines_breaks hbreaks []
  rw [hlines, readLead?_breaks hbreaks, readLead?_margin hafter]
  simp

/-- The lines of a text are read, and of the breaks at its end what the chomping leaves. -/
theorem readLines?_lines {text : Text} (h : EndsOpen text) {b : Char} (hb : isBreak b = true)
    {breaks : Text} (hbreaks : ∀ c ∈ breaks, isBreak c = true) {after : Text}
    (hafter : ∀ c ∈ after.head?, isWhite c = false) (chomping : Chomping) (first : Text)
    (blank : Bool) :
    ∃ lead, readLead? (some 2) 0 0 (literalLines true (text ++ b :: breaks) ++ after) = some lead ∧
      readLines? false chomping 2 first blank lead =
        some (first ++ text ++ chomping.tail [b] breaks, after) := by
  induction hlength : text.length using Nat.strongRecOn generalizing text first blank with
  | _ length ih =>
    obtain ⟨empty, c, line, hempty, hline, htext⟩ := h.exists_line
    have hbroken (d : Char) (hd : isBreak d = true) (rest : Text) :
        literalLines false (d :: rest) ++ after = d :: (literalLines true rest ++ after) := by
      rw [literalLines, if_pos hd, List.cons_append]
    rcases htext with rfl | ⟨d, more, hd, hmore, rfl⟩
    · -- the last line is ended by the first of the breaks
      have hlead := readLead?_line hempty hline (b :: breaks) after
      rw [hbroken b hb] at hlead
      rw [List.append_assoc, List.cons_append, hlead]
      refine ⟨_, rfl, ?_⟩
      rw [readLines?_line hline hb (readLead?_end hbreaks hafter),
        readLines?_done (by decide : (0 : Nat) ≠ 2)]
      simp
    · have hshort : more.length < length := by
        rw [← hlength]
        simp only [List.length_append, List.length_cons]
        omega
      obtain ⟨next, hnext, hread⟩ := ih more.length hshort hmore [d] (isGap c) rfl
      have hlead := readLead?_line hempty hline (d :: (more ++ b :: breaks)) after
      rw [hbroken d hd] at hlead
      rw [List.append_assoc, List.cons_append, List.append_assoc, List.cons_append, hlead]
      refine ⟨_, rfl, ?_⟩
      rw [readLines?_line hline hd hnext, hread]
      simp

def Chomping.sign : Chomping → Text
  | strip => ['-']
  | clip => []
  | keep => ['+']

/-- Behind the header the lines are indented by two columns, whether the header or the first line says
so. -/
theorem readBlock?_header (wide : Bool) (chomping : Chomping) {lines : Text}
    (hlines : wide = false → ∃ c rest, lines = indentation ++ c :: rest ∧ c ≠ ' ' ∧ c ≠ '\t' ∧
      isBreak c = false) :
    readBlock? false (some 0)
        ((if wide then ['2'] else []) ++ chomping.sign ++ '\n' :: lines) =
      (readLead? (some 2) 0 0 lines).bind (readLines? false chomping 2 [] false) := by
  have hheader : readHeader? ((if wide then ['2'] else []) ++ chomping.sign ++ '\n' :: lines) =
      some (chomping, if wide then some 2 else none, '\n' :: lines) := by
    cases wide <;> cases chomping <;> rfl
  have hline : dropLineEnd? ('\n' :: lines) = some lines := rfl
  rw [readBlock?, hheader, Option.bind_eq_bind, Option.bind_some]
  dsimp only
  rw [hline, Option.bind_eq_bind, Option.bind_some]
  cases wide with
  | true => rfl
  | false =>
    obtain ⟨c, rest, rfl, hspace, htab, hbreak⟩ := hlines rfl
    rw [readLead?_content hbreak]
    change (readLead? none 0 0 _).bind _ = _
    rw [readLead?_first hspace htab hbreak]
    rfl

/-- Every text is nothing but breaks, or content with breaks behind it. -/
theorem exists_endsOpen (text : Text) :
    (∀ c ∈ text, isBreak c = true) ∨
      ∃ body breaks, EndsOpen body ∧ (∀ c ∈ breaks, isBreak c = true) ∧ text = body ++ breaks := by
  induction text with
  | nil => exact .inl nofun
  | cons c rest ih =>
    rcases ih with hall | ⟨body, breaks, ⟨before, last, hbody, hlast⟩, hbreaks, rfl⟩
    · by_cases hc : isBreak c = true
      · exact .inl (List.forall_mem_cons.2 ⟨hc, hall⟩)
      · exact .inr ⟨[c], rest, ⟨[], c, rfl, by simpa using hc⟩, hall, rfl⟩
    · exact .inr ⟨c :: body, breaks, ⟨c :: before, last, by rw [hbody]; rfl, hlast⟩, hbreaks, rfl⟩

theorem any_isBreak_getLast? {breaks : Text} (hne : breaks ≠ [])
    (h : ∀ c ∈ breaks, isBreak c = true) (front : Text) :
    ((front ++ breaks).getLast?.any isBreak) = true := by
  rw [List.getLast?_append_of_ne_nil _ hne, List.getLast?_eq_some_getLast hne, Option.any_some]
  exact h _ (List.getLast_mem hne)

theorem any_isBreak_getLast?_line (line : Text) : ((line ++ ['\n']).getLast?.any isBreak) = true :=
  any_isBreak_getLast? (List.cons_ne_nil _ _) (List.forall_mem_singleton.2 rfl) line

theorem signFor_keep {front breaks : Text} (hne : breaks ≠ [])
    (h : ∀ c ∈ breaks, isBreak c = true) (hmany : front = [] ∨ 2 ≤ breaks.length) :
    signFor (front ++ breaks) = Chomping.keep.sign := by
  rw [signFor, List.reverse_append]
  cases hreverse : breaks.reverse with
  | nil => exact absurd (List.reverse_eq_nil_iff.1 hreverse) hne
  | cons last before =>
    have hbreaks : ∀ c ∈ last :: before, isBreak c = true := by
      rw [← hreverse]
      exact fun c hc => h c (List.mem_reverse.1 hc)
    obtain ⟨hlast, hbefore⟩ := List.forall_mem_cons.1 hbreaks
    have hcount : breaks.length = before.length + 1 := by
      rw [← List.length_reverse, hreverse, List.length_cons]
    have hall : (before ++ front.reverse).head?.all isBreak = true := by
      cases before with
      | nil =>
        rcases hmany with rfl | hmany
        · rfl
        · rw [hcount] at hmany
          simp at hmany
      | cons c before => exact hbefore c (List.mem_cons_self ..)
    simp only [List.cons_append, hlast, hall, Bool.not_true, if_true, Bool.false_eq_true, if_false]
    rfl

/-- The sign of a text that ends in breaks asks for a chomping that leaves them all. -/
theorem exists_chomping {body : Text} (hopen : EndsOpen body) {b : Char} {more : Text}
    (h : ∀ c ∈ b :: more, isBreak c = true) :
    ∃ chomping : Chomping, signFor (body ++ b :: more) = chomping.sign ∧
      chomping.tail [b] more = b :: more := by
  cases more with
  | nil =>
    obtain ⟨before, last, rfl, hlast⟩ := hopen
    exact ⟨.clip, by simp [signFor, h b (List.mem_cons_self ..), hlast, Chomping.sign], rfl⟩
  | cons d more => exact ⟨.keep, signFor_keep (List.cons_ne_nil _ _) h (.inr (by simp)), rfl⟩

/-- Where the header fixes no width, the first line has content. -/
theorem literalLines_first {text : Text} (hne : text ≠ [])
    (hprintable : ∀ c ∈ text, isPrintable c = true) (h : needsWidth text = false) (tail : Text) :
    ∃ c rest, literalLines true text ++ tail = indentation ++ c :: rest ∧ c ≠ ' ' ∧ c ≠ '\t' ∧
      isBreak c = false := by
  cases text with
  | nil => exact absurd rfl hne
  | cons c rest =>
    rw [needsWidth, Bool.or_eq_false_iff, beq_eq_false_iff_ne] at h
    refine ⟨c, literalLines false rest ++ tail, ?_, h.1,
      ne_of_class (hprintable c (List.mem_cons_self ..)) rfl, h.2⟩
    rw [literalLines, if_neg (by simp [h.2])]
    rfl

def literalBody (text : Text) : Text :=
  (if needsWidth text then ['2'] else []) ++ signFor text ++ '\n' ::
    (literalLines true text ++ if text.getLast?.any isBreak then [] else ['\n'])

theorem readBlock?_sign {text : Text} (hne : text ≠ [])
    (hprintable : ∀ c ∈ text, isPrintable c = true) {chomping : Chomping}
    (hsign : signFor text = chomping.sign) (after : Text) :
    readBlock? false (some 0) (literalBody text ++ after) =
      (readLead? (some 2) 0 0 (literalLines true text ++
        ((if text.getLast?.any isBreak then [] else ['\n']) ++ after))).bind
          (readLines? false chomping 2 [] false) := by
  have hbody : literalBody text ++ after =
      (if needsWidth text then ['2'] else []) ++ chomping.sign ++ '\n' ::
        (literalLines true text ++
          ((if text.getLast?.any isBreak then [] else ['\n']) ++ after)) := by
    simp only [literalBody, hsign, List.append_assoc, List.cons_append]
  rw [hbody]
  exact readBlock?_header (needsWidth text) chomping fun h =>
    literalLines_first hne hprintable h _

theorem readBlock?_literalBody {text : Text} (hne : text ≠ [])
    (hprintable : ∀ c ∈ text, isPrintable c = true) {after : Text}
    (hafter : ∀ c ∈ after.head?, isWhite c = false) :
    readBlock? false (some 0) (literalBody text ++ after) = some (text, after) := by
  rcases exists_endsOpen text with hall | ⟨body, breaks, hopen, hbreaks, rfl⟩
  · -- nothing but breaks
    have hsign : signFor text = Chomping.keep.sign := signFor_keep hne hall (.inl rfl)
    have hended : text.getLast?.any isBreak = true := any_isBreak_getLast? hne hall []
    rw [readBlock?_sign hne hprintable hsign, if_pos hended, List.nil_append,
      readLead?_end hall hafter, Option.bind_some, readLines?_done (by decide : (0 : Nat) ≠ 2)]
    simp [Chomping.tail]
  · cases breaks with
    | nil =>
      -- the last line is ended by a break that is not part of the text
      have hfeed := readLines?_lines hopen (b := '\n') rfl hbreaks hafter .strip [] false
      obtain ⟨before, last, rfl, hlast⟩ := hopen
      obtain ⟨lead, hlead, hresult⟩ := hfeed
      have hsign : signFor (before ++ [last] ++ []) = Chomping.strip.sign := by
        simp [signFor, hlast, Chomping.sign]
      have hended : ¬ ((before ++ [last] ++ []).getLast?.any isBreak) = true := by
        simp [hlast]
      rw [readBlock?_sign hne hprintable hsign, if_neg hended, List.append_nil, ← List.append_assoc,
        ← literalLines_feed, hlead, Option.bind_some, hresult]
      simp [Chomping.tail]
    | cons b more =>
      obtain ⟨hb, hmore⟩ := List.forall_mem_cons.1 hbreaks
      obtain ⟨chomping, hsign, htail⟩ := exists_chomping hopen hbreaks
      obtain ⟨lead, hlead, hresult⟩ := readLines?_lines hopen hb hmore hafter chomping [] false
      rw [readBlock?_sign hne hprintable hsign,
        if_pos (any_isBreak_getLast? (List.cons_ne_nil b more) hbreaks body), List.nil_append, hlead,
        Option.bind_some, hresult, htail, List.nil_append]

theorem getLast?_literalLines (afterBreak : Bool) {text : Text} (h : text ≠ []) :
    (literalLines afterBreak text).getLast? = text.getLast? := by
  induction text generalizing afterBreak with
  | nil => exact absurd rfl h
  | cons c rest ih =>
    cases rest with
    | nil => by_cases hc : isBreak c = true <;> simp [literalLines, hc]
    | cons d rest =>
      have hne : d :: rest ≠ [] := List.cons_ne_nil d rest
      obtain ⟨last, hlast⟩ := Option.isSome_iff_exists.1 (List.getLast?_isSome.2 hne)
      have htrue := (ih true hne).trans hlast
      have hfalse := (ih false hne).trans hlast
      rw [literalLines, List.getLast?_cons_cons, hlast]
      split
      · rw [List.getLast?_cons, htrue]
        rfl
      · rw [List.getLast?_append, List.getLast?_cons, hfalse]
        rfl

theorem getLast?_behind_literalLines {text : Text} (h : text ≠ []) (front : Text) :
    (front ++ '\n' :: literalLines true text).getLast? = text.getLast? := by
  obtain ⟨last, hlast⟩ := Option.isSome_iff_exists.1 (List.getLast?_isSome.2 h)
  rw [List.getLast?_append, List.getLast?_cons, getLast?_literalLines true h, hlast]
  rfl

theorem mem_literalLines {c : Char} {afterBreak : Bool} {text : Text}
    (h : c ∈ literalLines afterBreak text) : c ∈ text ∨ c = ' ' := by
  induction text generalizing afterBreak with
  | nil => cases h
  | cons d rest ih =>
    rw [literalLines] at h
    split at h
    · rcases List.mem_cons.1 h with rfl | h
      · exact .inl (List.mem_cons_self ..)
      · exact (ih h).imp_left (List.mem_cons_of_mem d)
    · rcases List.mem_append.1 h with h | h
      · cases afterBreak with
        | false => cases h
        | true => exact .inr (by simpa [indentation] using h)
      · rcases List.mem_cons.1 h with rfl | h
        · exact .inl (List.mem_cons_self ..)
        · exact (ih h).imp_left (List.mem_cons_of_mem d)

theorem isPrintable_of_mem_writeLiteral {c : Char} {text : Text}
    (hprintable : ∀ c ∈ text, isPrintable c = true) (h : c ∈ writeLiteral text) :
    isPrintable c = true := by
  have hwidth : (if needsWidth text then ['2'] else []).all isPrintable = true := by
    split <;> rfl
  have hsign : (signFor text).all isPrintable = true := by
    unfold signFor
    split
    · rfl
    · split
      · rfl
      · split <;> rfl
  simp only [writeLiteral, List.mem_append, List.mem_cons] at h
  rcases h with ((rfl | h) | h) | rfl | h
  · decide
  · exact List.all_eq_true.1 hwidth c h
  · exact List.all_eq_true.1 hsign c h
  · decide
  · rcases mem_literalLines h with h | rfl
    · exact hprintable c h
    · decide

end Scalars

end EventText.Yaml
