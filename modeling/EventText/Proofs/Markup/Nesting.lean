import EventText.Markup
import EventText.Proofs.Text.Trim

/-! Nesting of bold tags. A text takes the depth of bold from one level to another, as long as no tag
closes what is not open (`BoldDepth`). A piece of a nested text need not be nested itself, but it takes
one level to another, and so it does one level deeper: between two tags of its own it has the same
effect on what is around it (`boldDepth_bold`). A text that leads from no bold to no bold is nested, and
no front of it has more closing than opening tags. -/

namespace EventText

def openTag : Text := "<b>".toList

def closeTag : Text := "</b>".toList

/-- Text without tags, and parts in bold with nested text inside and behind them. -/
inductive Nested : Text → Prop where
  | plain {text : Text} : '<' ∉ text → Nested text
  | part {before inside after : Text} : '<' ∉ before → Nested inside → Nested after →
      Nested (before ++ bold inside ++ after)

def Text.occurrences (part : Text) : Text → Nat
  | [] => 0
  | c :: rest => occurrences part rest + if part.isPrefixOf (c :: rest) then 1 else 0

/-- Read at depth `d` of bold, the text ends at depth `e`. Every `<` in it begins a tag. -/
inductive BoldDepth : Nat → Text → Nat → Prop where
  | nil {d : Nat} : BoldDepth d [] d
  | letter {d e : Nat} {c : Char} {rest : Text} :
      c ≠ '<' → BoldDepth d rest e → BoldDepth d (c :: rest) e
  | opening {d e : Nat} {rest : Text} :
      BoldDepth (d + 1) rest e → BoldDepth d (openTag ++ rest) e
  | closing {d e : Nat} {rest : Text} :
      BoldDepth d rest e → BoldDepth (d + 1) (closeTag ++ rest) e

namespace BoldDepth

variable {d e n : Nat} {a b text : Text}

theorem append (ha : BoldDepth d a n) (hb : BoldDepth n b e) : BoldDepth d (a ++ b) e := by
  induction ha with
  | nil => exact hb
  | letter hc _ ih => exact .letter hc (ih hb)
  | opening _ ih =>
    rw [List.append_assoc]
    exact .opening (ih hb)
  | closing _ ih =>
    rw [List.append_assoc]
    exact .closing (ih hb)

theorem of_plain (h : '<' ∉ text) : BoldDepth d text d := by
  induction text with
  | nil => exact .nil
  | cons c text ih =>
    obtain ⟨hc, htext⟩ := List.ne_and_not_mem_of_not_mem_cons h
    exact .letter hc.symm (ih htext)

theorem deeper (h : BoldDepth d text e) : BoldDepth (d + 1) text (e + 1) := by
  induction h with
  | nil => exact .nil
  | letter hc _ ih => exact .letter hc ih
  | opening _ ih => exact .opening ih
  | closing _ ih => exact .closing ih

theorem of_cons {c : Char} (hc : c ≠ '<') (h : BoldDepth d (c :: text) e) : BoldDepth d text e := by
  generalize hwhole : c :: text = whole at h
  cases h with
  | nil => cases hwhole
  | letter _ hrest =>
    obtain ⟨rfl, rfl⟩ := List.cons.inj hwhole
    exact hrest
  | opening _ => exact absurd (List.cons.inj hwhole).1 hc
  | closing _ => exact absurd (List.cons.inj hwhole).1 hc

/-- Text without tags can be taken away in front. -/
theorem of_plain_append {front : Text} (hfront : '<' ∉ front) (h : BoldDepth d (front ++ text) e) :
    BoldDepth d text e := by
  induction front with
  | nil => exact h
  | cons c front ih =>
    obtain ⟨hc, hfront⟩ := List.ne_and_not_mem_of_not_mem_cons hfront
    exact ih hfront (of_cons hc.symm h)

theorem eq_of_plain (htext : '<' ∉ text) (h : BoldDepth d text e) : d = e := by
  have hnil : BoldDepth d [] e := of_plain_append htext (by rwa [List.append_nil])
  cases hnil with
  | nil => rfl

end BoldDepth

/-- A tag in a text does not reach over a character that no tag has. -/
theorem exists_behind_tag {tag rest a b : Text} {c : Char} (hc : c ∉ tag)
    (h : tag ++ rest = a ++ c :: b) : ∃ more, a = tag ++ more ∧ rest = more ++ c :: b := by
  rcases List.append_eq_append_iff.1 h with ⟨more, rfl, hrest⟩ | ⟨tail, rfl, htail⟩
  · exact ⟨more, rfl, hrest⟩
  · cases tail with
    | nil => exact ⟨[], by simp, by simpa using htail.symm⟩
    | cons d tail =>
      obtain ⟨rfl, -⟩ := List.cons.inj htail
      exact absurd (List.mem_append_right a (List.mem_cons_self ..)) hc

namespace BoldDepth

variable {d e : Nat} {a b text : Text} {c : Char}

theorem tag_free (hc : c ∉ closeTag) : c ∉ openTag ∧ c ≠ '<' := by
  have hsub : openTag ⊆ closeTag := by decide
  have hfirst : '<' ∈ closeTag := by decide
  exact ⟨fun hmem => hc (hsub hmem), fun heq => hc (heq ▸ hfirst)⟩

/-- A text is cut in two before a character that no tag has. -/
theorem exists_of_append_cons (hc : c ∉ closeTag) (h : BoldDepth d (a ++ c :: b) e) :
    ∃ n, BoldDepth d a n ∧ BoldDepth n (c :: b) e := by
  generalize hwhole : a ++ c :: b = whole at h
  induction h generalizing a with
  | nil => simp at hwhole
  | @letter d e x rest hx hrest ih =>
    cases a with
    | nil =>
      rw [List.nil_append] at hwhole
      rw [hwhole]
      exact ⟨d, .nil, .letter hx hrest⟩
    | cons y a =>
      obtain ⟨rfl, htail⟩ := List.cons.inj hwhole
      obtain ⟨n, ha, hb⟩ := ih htail
      exact ⟨n, .letter hx ha, hb⟩
  | opening _ ih =>
    obtain ⟨more, rfl, hrest⟩ := exists_behind_tag (tag_free hc).1 hwhole.symm
    obtain ⟨n, ha, hb⟩ := ih hrest.symm
    exact ⟨n, .opening ha, hb⟩
  | closing _ ih =>
    obtain ⟨more, rfl, hrest⟩ := exists_behind_tag hc hwhole.symm
    obtain ⟨n, ha, hb⟩ := ih hrest.symm
    exact ⟨n, .closing ha, hb⟩

/-- Text of characters that no tag has can be taken away behind. -/
theorem of_append_free {back : Text} (hback : ∀ c ∈ back, c ∉ closeTag)
    (h : BoldDepth d (text ++ back) e) : BoldDepth d text e := by
  cases back with
  | nil => rwa [List.append_nil] at h
  | cons c back =>
    have hplain : '<' ∉ c :: back := fun hmem => hback _ hmem (by decide)
    obtain ⟨n, htext, hrest⟩ := exists_of_append_cons (hback c (List.mem_cons_self ..)) h
    obtain rfl := eq_of_plain hplain hrest
    exact htext

/-- Blanks are not part of a tag. -/
theorem trim (h : BoldDepth d text e) : BoldDepth d text.trim e := by
  obtain ⟨front, back, hfront, hback, htext⟩ := Text.exists_blanks_trim text
  have hfree : ∀ c, isBlank c = true → c ∉ closeTag := by
    have hall : closeTag.all (fun c => !isBlank c) = true := by decide
    intro c hc hmem
    have hvisible := List.all_eq_true.1 hall c hmem
    rw [hc] at hvisible
    cases hvisible
  have hplain : '<' ∉ front := fun hmem => hfree _ (hfront _ hmem) (by decide)
  rw [htext] at h
  exact of_append_free (fun c hc => hfree c (hback c hc)) (of_plain_append hplain h)

end BoldDepth

/-- Bold has the effect of the text in it, one level deeper. -/
theorem boldDepth_bold {d e : Nat} {text : Text} (h : BoldDepth d text e) :
    BoldDepth d (bold text) e := by
  have hclosing : BoldDepth (e + 1) (closeTag ++ []) e := .closing .nil
  have hbold : BoldDepth d (openTag ++ (text ++ (closeTag ++ []))) e :=
    .opening (h.deeper.append hclosing)
  simpa [bold, openTag, closeTag] using hbold

section Nested

theorem Nested.cons {c : Char} (hc : c ≠ '<') {text : Text} (h : Nested text) :
    Nested (c :: text) := by
  cases h with
  | plain hplain => exact .plain (List.not_mem_cons_of_ne_of_not_mem hc.symm hplain)
  | part hbefore hinside hafter =>
    exact .part (List.not_mem_cons_of_ne_of_not_mem hc.symm hbefore) hinside hafter

/-- The text is nested but for closing tags of `d` parts that were opened before it. -/
def Closes : Nat → Text → Prop
  | 0, text => Nested text
  | d + 1, text => ∃ inside after, text = inside ++ closeTag ++ after ∧ Nested inside ∧ Closes d after

theorem Closes.cons {d : Nat} {c : Char} (hc : c ≠ '<') {text : Text} (h : Closes d text) :
    Closes d (c :: text) := by
  cases d with
  | zero => exact Nested.cons hc h
  | succ d =>
    obtain ⟨inside, after, rfl, hinside, hafter⟩ := h
    exact ⟨c :: inside, after, rfl, hinside.cons hc, hafter⟩

theorem Closes.bold {d : Nat} {inside after : Text} (hinside : Nested inside) (h : Closes d after) :
    Closes d (EventText.bold inside ++ after) := by
  cases d with
  | zero => exact .part List.not_mem_nil hinside h
  | succ d =>
    obtain ⟨outer, rest, rfl, houter, hrest⟩ := h
    refine ⟨EventText.bold inside ++ outer, rest, by simp, ?_, hrest⟩
    exact .part List.not_mem_nil hinside houter

theorem BoldDepth.closes {d : Nat} {text : Text} (h : BoldDepth d text 0) : Closes d text := by
  generalize hend : 0 = e at h
  induction h with
  | nil =>
    subst hend
    exact .plain List.not_mem_nil
  | letter hc _ ih => exact (ih hend).cons hc
  | opening _ ih =>
    obtain ⟨inside, after, rfl, hinside, hafter⟩ := ih hend
    have hbold := hafter.bold hinside
    simpa [bold, openTag, closeTag] using hbold
  | closing _ ih => exact ⟨[], _, rfl, .plain List.not_mem_nil, ih hend⟩

theorem nested_iff {text : Text} : Nested text ↔ BoldDepth 0 text 0 := by
  constructor
  · intro h
    induction h with
    | plain h => exact .of_plain h
    | part hbefore _ _ hinside hafter =>
      exact ((BoldDepth.of_plain hbefore).append (boldDepth_bold hinside)).append hafter
  · exact BoldDepth.closes

end Nested

section Counting

open Text

theorem occurrences_le_of_prefix {part front text : Text} (h : front <+: text) :
    occurrences part front ≤ occurrences part text := by
  induction front generalizing text with
  | nil => exact Nat.zero_le _
  | cons c front ih =>
    obtain ⟨behind, rfl⟩ := h
    have hrest := ih (List.prefix_append front behind)
    have hhere : part.isPrefixOf (c :: front) = true →
        part.isPrefixOf (c :: (front ++ behind)) = true := by
      simp only [List.isPrefixOf_iff_prefix]
      exact fun hpart => hpart.trans (List.prefix_append (c :: front) behind)
    rw [List.cons_append, occurrences, occurrences]
    split
    · rename_i hfront
      rw [if_pos (hhere hfront)]
      omega
    · omega

theorem occurrences_cons_of_ne {c : Char} (hc : c ≠ '<') (rest : Text) :
    occurrences openTag (c :: rest) = occurrences openTag rest ∧
      occurrences closeTag (c :: rest) = occurrences closeTag rest := by
  simp [occurrences, openTag, closeTag, List.isPrefixOf, Ne.symm hc]

theorem occurrences_openTag_append (rest : Text) :
    occurrences openTag (openTag ++ rest) = occurrences openTag rest + 1 ∧
      occurrences closeTag (openTag ++ rest) = occurrences closeTag rest := by
  simp [occurrences, openTag, closeTag, List.isPrefixOf]

theorem occurrences_closeTag_append (rest : Text) :
    occurrences openTag (closeTag ++ rest) = occurrences openTag rest ∧
      occurrences closeTag (closeTag ++ rest) = occurrences closeTag rest + 1 := by
  simp [occurrences, openTag, closeTag, List.isPrefixOf]

namespace BoldDepth

variable {d e : Nat} {front text : Text}

/-- The tags of a text make up for the difference of the depths. -/
theorem occurrences_eq (h : BoldDepth d text e) :
    occurrences closeTag text + e = occurrences openTag text + d := by
  induction h with
  | nil => rfl
  | @letter _ _ _ rest hc _ ih =>
    obtain ⟨hopen, hclose⟩ := occurrences_cons_of_ne hc rest
    omega
  | @opening _ _ rest _ ih =>
    obtain ⟨hopen, hclose⟩ := occurrences_openTag_append rest
    omega
  | @closing _ _ rest _ ih =>
    obtain ⟨hopen, hclose⟩ := occurrences_closeTag_append rest
    omega

/-- Wherever the reading stops, also inside a tag, no more has been closed than was open. -/
theorem occurrences_le (h : BoldDepth d text e) (hfront : front <+: text) :
    occurrences closeTag front ≤ occurrences openTag front + d := by
  induction h generalizing front with
  | nil =>
    rw [List.prefix_nil.1 hfront]
    exact Nat.zero_le _
  | @letter _ _ c rest hc _ ih =>
    rcases List.prefix_cons_iff.1 hfront with rfl | ⟨more, rfl, hmore⟩
    · exact Nat.zero_le _
    · obtain ⟨hopen, hclose⟩ := occurrences_cons_of_ne hc more
      have hle := ih hmore
      omega
  | @opening _ _ rest _ ih =>
    rcases List.prefix_or_prefix_of_prefix hfront (List.prefix_append openTag rest) with hinside | hbehind
    · have hle : occurrences closeTag front ≤ occurrences closeTag openTag :=
        occurrences_le_of_prefix hinside
      have hnone : occurrences closeTag openTag = 0 := by decide
      omega
    · obtain ⟨more, rfl⟩ := hbehind
      obtain ⟨hopen, hclose⟩ := occurrences_openTag_append more
      have hle := ih ((List.prefix_append_right_inj openTag).1 hfront)
      omega
  | @closing _ _ rest _ ih =>
    rcases List.prefix_or_prefix_of_prefix hfront (List.prefix_append closeTag rest) with hinside | hbehind
    · have hle : occurrences closeTag front ≤ occurrences closeTag closeTag :=
        occurrences_le_of_prefix hinside
      have hone : occurrences closeTag closeTag = 1 := by decide
      omega
    · obtain ⟨more, rfl⟩ := hbehind
      obtain ⟨hopen, hclose⟩ := occurrences_closeTag_append more
      have hle := ih ((List.prefix_append_right_inj closeTag).1 hfront)
      omega

end BoldDepth

end Counting

end EventText
