import EventText.Proofs.Time.Reach

/-! Times of the local clock as they are typed. They are valid readings at the beginning of a minute
(`typed_of_readLocal?`), and none of them is a time after RFC 3339 as well, for that has a second colon
(`readRfc3339?_of_readLocal?`). -/

namespace EventText

section Minutes

theorem wholeMinute_of_readMinute? {between : Text → Option Text} {text : Text} {typed : DateTime}
    (h : readMinute? between text = some typed) :
    typed.time.second = 0 ∧ typed.time.nanosecond = 0 := by
  obtain ⟨date, hour, minute, hreading, -⟩ := exists_fields_of_readMinute? h
  unfold readingOf? at hreading
  split at hreading
  · obtain rfl := Option.some.inj hreading
    exact ⟨rfl, rfl⟩
  · cases hreading

/-- A time that is typed is a valid reading of the clock, at the beginning of a minute. -/
theorem typed_of_readLocal? {text : Text} {typed : DateTime} (h : readLocal? text = some typed) :
    typed.IsValid ∧ typed.time.second = 0 ∧ typed.time.nanosecond = 0 := by
  refine ⟨(isValid_of_readLocal? h).1, ?_⟩
  rcases Option.or_eq_some_iff.1 h with h | ⟨-, h⟩
  · exact wholeMinute_of_readMinute? h
  · exact wholeMinute_of_readMinute? h

end Minutes

section Colons

variable {text rest : Text} {n : Nat}

theorem count_trimStart (text : Text) : text.trimStart.count ':' = text.count ':' := by
  have hsplit := congrArg (List.count ':') (List.takeWhile_append_dropWhile (p := isBlank) (l := text))
  have hblanks : (text.takeWhile isBlank).count ':' = 0 :=
    List.count_eq_zero.2 fun hmem => absurd (List.mem_takeWhile_imp hmem) (by decide)
  rw [List.count_append, hblanks, Nat.zero_add] at hsplit
  exact hsplit

theorem eq_of_dropChar? {c : Char} (h : dropChar? c text = some rest) : text = c :: rest := by
  cases text with
  | nil => cases h
  | cons d after =>
    rw [dropChar?] at h
    split at h
    · rename_i hd
      rw [hd, Option.some.inj h]
    · cases h

theorem eq_of_bind_within? {x : Option (Nat × Text)} {least most : Nat}
    (h : x.bind (within? least most) = some (n, rest)) : x = some (n, rest) := by
  obtain ⟨⟨m, after⟩, hx, h⟩ := Option.bind_eq_some_iff.1 h
  rw [within?] at h
  split at h
  · rw [hx, Option.some.inj h]
  · cases h

theorem count_of_readNumber? {most : Nat} (h : readNumber? most text = some (n, rest)) :
    text.count ':' = rest.count ':' := by
  unfold readNumber? at h
  dsimp only at h
  split at h
  · cases h
  · obtain ⟨-, rfl⟩ := Prod.mk.inj (Option.some.inj h)
    have hprefix : (text.take most).takeWhile Char.isDigit <+: text :=
      (List.takeWhile_prefix _).trans (List.take_prefix _ _)
    have hcount := congrArg (List.count ':') (List.prefix_iff_eq_append.1 hprefix)
    have hdigits : ((text.take most).takeWhile Char.isDigit).count ':' = 0 :=
      List.count_eq_zero.2 fun hmem => absurd (List.mem_takeWhile_imp hmem) (by decide)
    rw [List.count_append, hdigits, Nat.zero_add] at hcount
    exact hcount.symm

theorem count_of_readField? {most : Nat} (h : readField? most text = some (n, rest)) :
    text.count ':' = rest.count ':' := by
  rw [← count_trimStart, count_of_readNumber? h]

theorem count_of_readYear? {year : Int} (h : readYear? text = some (year, rest)) :
    text.count ':' = rest.count ':' := by
  rw [← count_trimStart]
  unfold readYear? at h
  split at h
  · rename_i htext
    obtain ⟨_, hn, heq⟩ := Option.map_eq_some_iff.1 h
    obtain ⟨-, rfl⟩ := Prod.mk.inj heq
    rw [htext, List.count_cons_of_ne (by decide), count_of_readNumber? hn]
  · rename_i htext
    obtain ⟨_, hn, heq⟩ := Option.map_eq_some_iff.1 h
    obtain ⟨-, rfl⟩ := Prod.mk.inj heq
    rw [htext, List.count_cons_of_ne (by decide), count_of_readNumber? hn]
  · obtain ⟨_, hn, heq⟩ := Option.map_eq_some_iff.1 h
    obtain ⟨-, rfl⟩ := Prod.mk.inj heq
    exact count_of_readNumber? hn

theorem count_le_of_readDigits? {count : Nat} (h : readDigits? count text = some (n, rest)) :
    rest.count ':' ≤ text.count ':' := by
  unfold readDigits? at h
  dsimp only at h
  split at h
  · obtain ⟨-, rfl⟩ := Prod.mk.inj (Option.some.inj h)
    exact (List.drop_sublist _ _).count_le _
  · cases h

theorem count_le_of_dropSeparator? (h : dropSeparator? text = some rest) :
    rest.count ':' ≤ text.count ':' := by
  cases text with
  | nil => cases h
  | cons c after =>
    rw [dropSeparator?] at h
    split at h
    · obtain rfl := Option.some.inj h
      exact List.count_le_count_cons
    · cases h

theorem count_of_dropChar? {c : Char} (hc : c ≠ ':') (h : dropChar? c text = some rest) :
    text.count ':' = rest.count ':' := by
  rw [eq_of_dropChar? h, List.count_cons_of_ne hc]

theorem count_of_colon (h : dropChar? ':' text = some rest) :
    text.count ':' = rest.count ':' + 1 := by
  rw [eq_of_dropChar? h, List.count_cons_self]

/-- The one colon stands between the hours and the minutes. -/
theorem count_of_readMinute? {between : Text → Option Text} {typed : DateTime}
    (hbetween : ∀ {text rest}, between text = some rest → text.count ':' = rest.count ':')
    (h : readMinute? between text = some typed) : text.count ':' = 1 := by
  obtain ⟨⟨year, _⟩, hyear, h⟩ := Option.bind_eq_some_iff.1 h
  obtain ⟨_, hdash, h⟩ := Option.bind_eq_some_iff.1 h
  obtain ⟨⟨month, _⟩, hmonth, h⟩ := Option.bind_eq_some_iff.1 h
  obtain ⟨_, hdash', h⟩ := Option.bind_eq_some_iff.1 h
  obtain ⟨⟨day, _⟩, hday, h⟩ := Option.bind_eq_some_iff.1 h
  obtain ⟨_, hgap, h⟩ := Option.bind_eq_some_iff.1 h
  obtain ⟨⟨hour, _⟩, hhour, h⟩ := Option.bind_eq_some_iff.1 h
  obtain ⟨_, hcolon, h⟩ := Option.bind_eq_some_iff.1 h
  obtain ⟨⟨minute, after⟩, hminute, h⟩ := Option.bind_eq_some_iff.1 h
  obtain ⟨_, hend, -⟩ := Option.bind_eq_some_iff.1 h
  have hnil : after = [] := by simpa [guard] using hend
  rw [count_of_readYear? hyear, count_of_dropChar? (by decide) hdash, count_of_readField? hmonth,
    count_of_dropChar? (by decide) hdash', count_of_readField? hday, hbetween hgap,
    count_of_readField? (eq_of_bind_within? hhour), count_of_colon hcolon,
    count_of_readField? (eq_of_bind_within? hminute), hnil]
  rfl

theorem count_of_readLocal? {typed : DateTime} (h : readLocal? text = some typed) :
    text.count ':' = 1 := by
  rcases Option.or_eq_some_iff.1 h with h | ⟨-, h⟩
  · refine count_of_readMinute? (fun {text rest} hgap => ?_) h
    obtain rfl := Option.some.inj hgap
    exact (count_trimStart text).symm
  · exact count_of_readMinute? (fun hgap => count_of_dropChar? (by decide) hgap) h

/-- There is a colon before the minutes and one before the seconds. -/
theorem two_le_count_of_readRfc3339? {t : OffsetInstant} (h : readRfc3339? text = some t) :
    2 ≤ text.count ':' := by
  obtain ⟨⟨year, _⟩, hyear, h⟩ := Option.bind_eq_some_iff.1 h
  obtain ⟨_, hdash, h⟩ := Option.bind_eq_some_iff.1 h
  obtain ⟨⟨month, _⟩, hmonth, h⟩ := Option.bind_eq_some_iff.1 h
  obtain ⟨_, hdash', h⟩ := Option.bind_eq_some_iff.1 h
  obtain ⟨⟨day, _⟩, hday, h⟩ := Option.bind_eq_some_iff.1 h
  obtain ⟨_, hgap, h⟩ := Option.bind_eq_some_iff.1 h
  obtain ⟨⟨hour, _⟩, hhour, h⟩ := Option.bind_eq_some_iff.1 h
  obtain ⟨_, hcolon, h⟩ := Option.bind_eq_some_iff.1 h
  obtain ⟨⟨minute, _⟩, hminute, h⟩ := Option.bind_eq_some_iff.1 h
  obtain ⟨_, hcolon', -⟩ := Option.bind_eq_some_iff.1 h
  replace hyear := count_le_of_readDigits? hyear
  replace hdash := count_of_dropChar? (by decide) hdash
  replace hmonth := count_le_of_readDigits? hmonth
  replace hdash' := count_of_dropChar? (by decide) hdash'
  replace hday := count_le_of_readDigits? hday
  replace hgap := count_le_of_dropSeparator? hgap
  replace hhour := count_le_of_readDigits? (eq_of_bind_within? hhour)
  replace hcolon := count_of_colon hcolon
  replace hminute := count_le_of_readDigits? (eq_of_bind_within? hminute)
  replace hcolon' := count_of_colon hcolon'
  omega

/-- No time of the local clock is a time after RFC 3339. -/
theorem readRfc3339?_of_readLocal? {typed : DateTime} (h : readLocal? text = some typed) :
    readRfc3339? text = none := by
  by_contra hne
  obtain ⟨t, ht⟩ := Option.ne_none_iff_exists'.1 hne
  have hone := count_of_readLocal? h
  have htwo := two_le_count_of_readRfc3339? ht
  omega

end Colons

end EventText
