import EventText.Proofs.Text.Runs
import EventText.Proofs.Time.Calendar
import EventText.Time.Format

/-! Written times read back. Each part of a written time is read by the reader of that part, whatever
stands behind it, as long as no digit follows a number. So the lenient reader gives an instant back
(`readLooseRfc3339?_written`), but for a leap second within a minute, which is written as the second
after it. -/

namespace EventText

section Digits

theorem digitsValue_eq (digits : Text) : digitsValue digits = Nat.ofDigitChars 10 digits 0 := by
  rw [digitsValue, Nat.ofDigitChars_eq_foldl]
  simp only [Nat.mul_comm]

theorem digitsValue_append (a b : Text) :
    digitsValue (a ++ b) = 10 ^ b.length * digitsValue a + digitsValue b := by
  rw [digitsValue_eq, Nat.ofDigitChars_append, Nat.ofDigitChars_eq_ofDigitChars_zero,
    digitsValue_eq, digitsValue_eq]

@[simp] theorem digitsValue_replicate_zero (count : Nat) :
    digitsValue (List.replicate count '0') = 0 := by
  rw [digitsValue_eq, Nat.ofDigitChars_replicate_zero, Nat.mul_zero]

/-- Zeros in front do not change the value. -/
@[simp] theorem digitsValue_padded (width n : Nat) : digitsValue (Text.padded width n) = n := by
  rw [Text.padded, digitsValue_append, digitsValue_replicate_zero, Nat.mul_zero, Nat.zero_add,
    digitsValue_eq]
  exact Nat.ofDigitChars_ten_toDigits

theorem isDigit_of_mem_padded {c : Char} {width n : Nat} (h : c ∈ Text.padded width n) :
    c.isDigit = true := by
  rcases List.mem_append.1 h with h | h
  · rw [List.eq_of_mem_replicate h]
    rfl
  · exact Text.isDigit_of_mem_ofNat h

theorem length_padded {width n : Nat} (hwidth : 0 < width) (h : n < 10 ^ width) :
    (Text.padded width n).length = width := by
  have := (Nat.length_toDigits_le_iff (by decide) hwidth).2 h
  rw [Text.padded, List.length_append, List.length_replicate, Text.ofNat]
  omega

theorem padded_ne_nil (width n : Nat) : Text.padded width n ≠ [] :=
  List.append_ne_nil_of_right_ne_nil _ (Text.ofNat_ne_nil n)

def Text.EndsNumber (text : Text) : Prop :=
  ∀ c ∈ text.head?, c.isDigit = false

theorem readNumber?_append {most : Nat} {digits rest : Text} (hne : digits ≠ [])
    (hdigits : ∀ c ∈ digits, c.isDigit = true) (hlength : digits.length ≤ most)
    (hrest : rest.EndsNumber) :
    readNumber? most (digits ++ rest) = some (digitsValue digits, rest) := by
  have htake : Text.EndsNumber (rest.take (most - digits.length)) := by
    intro c hc
    rw [List.head?_take] at hc
    split at hc
    · cases hc
    · exact hrest c hc
  unfold readNumber?
  rw [List.take_append, List.take_of_length_le hlength, Text.takeWhile_exact hdigits htake]
  simp [hne]

theorem isBlank_eq_false_of_isDigit {c : Char} (h : c.isDigit = true) : isBlank c = false := by
  obtain ⟨hzero, hnine⟩ := toNat_of_isDigit h
  have hdigits : ∀ i : Fin 10, holdsIn blanks.ranges (48 + i) = false := by decide
  have hc := hdigits ⟨c.toNat - 48, by omega⟩
  rwa [Nat.add_sub_cancel' (by omega)] at hc

theorem trimStart_digits {digits : Text} (hne : digits ≠ [])
    (hdigits : ∀ c ∈ digits, c.isDigit = true) (rest : Text) :
    Text.trimStart (digits ++ rest) = digits ++ rest := by
  cases digits with
  | nil => exact absurd rfl hne
  | cons c digits =>
    exact List.dropWhile_cons_of_neg (by simp [isBlank_eq_false_of_isDigit (hdigits c (by simp))])

theorem readField?_padded {width n : Nat} {rest : Text} (hwidth : 0 < width) (h : n < 10 ^ width)
    (hrest : rest.EndsNumber) :
    readField? width (Text.padded width n ++ rest) = some (n, rest) := by
  have hdigits : ∀ c ∈ Text.padded width n, c.isDigit = true := fun c hc => isDigit_of_mem_padded hc
  rw [readField?, trimStart_digits (padded_ne_nil width n) hdigits,
    readNumber?_append (padded_ne_nil width n) hdigits (length_padded hwidth h).le hrest,
    digitsValue_padded]

end Digits

section Parts

/-- A year is told from what follows it by its width or its sign. -/
theorem readYear?_writeYear (year : Int) {rest : Text} (hrest : rest.EndsNumber) :
    readYear? (writeYear year ++ rest) = some (year, rest) := by
  have hdigits (n : Nat) : ∀ c ∈ Text.padded 4 n, c.isDigit = true :=
    fun c hc => isDigit_of_mem_padded hc
  have hne (n : Nat) := padded_ne_nil 4 n
  have hany (n : Nat) : readNumber? (Text.padded 4 n ++ rest).length (Text.padded 4 n ++ rest) =
      some (n, rest) := by
    rw [readNumber?_append (hne n) (hdigits n) (by simp) hrest, digitsValue_padded]
  unfold writeYear
  split
  · have hread : readYear? ('-' :: (Text.padded 4 year.natAbs ++ rest)) =
        some (-(year.natAbs : Int), rest) := by
      change (readNumber? _ _).map _ = _
      rw [hany]
      rfl
    rw [List.cons_append, hread]
    congr 2
    omega
  · split
    · have hread : readYear? ('+' :: (Text.padded 4 year.natAbs ++ rest)) =
          some ((year.natAbs : Int), rest) := by
        change (readNumber? _ _).map _ = _
        rw [hany]
        rfl
      rw [List.cons_append, hread]
      congr 2
      omega
    · have hwidth : (Text.padded 4 year.natAbs).length = 4 := length_padded (by decide) (by omega)
      -- no digit is a sign
      have hsign (c : Char) (after : Text) (hc : c.isDigit = false) :
          Text.padded 4 year.natAbs ++ rest ≠ c :: after := by
        intro heq
        obtain ⟨d, digits, hcons⟩ := List.exists_cons_of_ne_nil (hne year.natAbs)
        rw [hcons, List.cons_append] at heq
        have hd := hdigits year.natAbs d (by rw [hcons]; exact List.mem_cons_self ..)
        exact ne_of_class hd hc (List.cons.inj heq).1
      unfold readYear?
      rw [trimStart_digits (hne _) (hdigits _)]
      split
      · rename_i heq
        exact absurd heq (hsign '-' _ rfl)
      · rename_i heq
        exact absurd heq (hsign '+' _ rfl)
      · rw [readNumber?_append (hne _) (hdigits _) hwidth.le hrest, digitsValue_padded]
        simp only [Option.map_some]
        congr 2
        omega

theorem readFraction?_writeFraction {nanosecond : Nat} (h : nanosecond < 10 ^ 9) {rest : Text}
    (hrest : rest.EndsNumber) (hpoint : rest.head? ≠ some '.') :
    readFraction? (writeFraction nanosecond ++ rest) = some (nanosecond, rest) := by
  have hgroups (width n : Nat) (hwidth : 0 < width ∧ width ≤ 9) (hn : n < 10 ^ width) :
      readFraction? ('.' :: (Text.padded width n ++ rest)) = some (10 ^ (9 - width) * n, rest) := by
    have hdigits : ∀ c ∈ Text.padded width n, c.isDigit = true :=
      fun c hc => isDigit_of_mem_padded hc
    have hlength := length_padded hwidth.1 hn
    have htake : (Text.padded width n ++ List.replicate 9 '0').take 9 =
        Text.padded width n ++ List.replicate (9 - width) '0' := by
      rw [List.take_append, List.take_of_length_le (by omega), List.take_replicate, hlength]
      congr 2
      omega
    change readNanoseconds? _ = _
    unfold readNanoseconds?
    simp only [Text.takeWhile_exact hdigits hrest, Text.dropWhile_exact hdigits hrest, htake,
      digitsValue_append, digitsValue_padded, digitsValue_replicate_zero, List.length_replicate]
    simp [padded_ne_nil]
  unfold writeFraction
  split
  · rename_i hzero
    rw [List.nil_append, hzero]
    unfold readFraction?
    split
    · exact absurd rfl hpoint
    · rfl
  · split
    · rw [List.cons_append, hgroups 3 _ (by decide) (by omega)]
      congr 2
      omega
    · split
      · rw [List.cons_append, hgroups 6 _ (by decide) (by omega)]
        congr 2
        omega
      · rw [List.cons_append, hgroups 9 _ (by decide) h]
        congr 2
        omega

end Parts

/-- Within a minute the next second changes the seconds alone. -/
theorem DateTime.ofSecond_succ {second : Int} (h : second % 60 ≠ 59) (nanosecond : Nat) :
    ofSecond (second + 1) nanosecond =
      let reading := ofSecond second nanosecond
      ⟨reading.date, {reading.time with second := reading.time.second + 1}⟩ := by
  have hdays : (second + 1) / 86400 = second / 86400 := by omega
  have hinDay : ((second + 1) % 86400).toNat = (second % 86400).toNat + 1 := by omega
  simp only [ofSecond, hdays, hinDay, DateTime.mk.injEq, TimeOfDay.mk.injEq, true_and, and_true]
  omega

namespace Instant

/-- A leap second comes at the end of its minute. -/
def LeapEndsMinute (t : Instant) : Prop :=
  1000000000 ≤ t.nanosecond → t.second % 60 = 59

/-- The instant as it is read back: a leap second within a minute becomes the second after it. -/
def settled (t : Instant) : Instant :=
  if h : 1000000000 ≤ t.nanosecond ∧ t.second % 60 ≠ 59 then
    { second := t.second + 1
      nanosecond := t.nanosecond - 1000000000
      first_le := t.first_le.trans (Int.le_add_one le_rfl)
      le_last := by
        have hlast : lastSecond % 60 = 59 := by decide
        have := t.le_last
        omega
      nanosecond_lt := by
        have := t.nanosecond_lt
        omega }
  else
    t

theorem settled_eq_iff (t : Instant) : t.settled = t ↔ t.LeapEndsMinute := by
  unfold settled LeapEndsMinute
  split
  · rename_i h
    refine iff_of_false (fun heq => ?_) (fun hleap => h.2 (hleap h.1))
    have := congrArg second heq
    dsimp only at this
    omega
  · exact iff_of_true rfl (by omega)

end Instant

namespace Date

theorem bounds_of_isValid {d : Date} (h : d.isValid = true) : d.month < 100 ∧ d.day < 100 := by
  unfold isValid at h
  split at h
  · rename_i length hlength
    simp only [Bool.and_eq_true, decide_eq_true_eq] at h
    obtain ⟨hmonth, -⟩ := List.getElem?_eq_some_iff.1 hlength
    have hbounds := bounds_of_mem_monthLengths _ (List.mem_of_getElem? hlength)
    have htwelve : (monthLengths d.year).length = 12 := rfl
    omega
  · rw [Bool.and_false] at h
    cases h

end Date

theorem endsNumber_cons {c : Char} (h : c.isDigit = false) (rest : Text) :
    Text.EndsNumber (c :: rest) :=
  Text.head?_cons_false h rest

theorem dropMark?_cons {c : Char} (h : isBlank c = false) (rest : Text) :
    dropMark? c (c :: rest) = some rest := by
  have htrim : Text.trimStart (c :: rest) = c :: rest :=
    List.dropWhile_cons_of_neg (by simp [h])
  rw [dropMark?, htrim, dropChar?, if_pos rfl]

theorem bind_eq_of_eq_some {α β : Type} {x : Option α} {a : α} {f : α → Option β}
    {result : Option β} (h : x = some a) (hf : f a = result) : (x >>= f) = result := by
  rw [h]
  exact hf

theorem within?_eq {least most n : Nat} (h : least ≤ n ∧ n ≤ most) (rest : Text) :
    within? least most (n, rest) = some (n, rest) := by
  simp [within?, h]

/-- The parts of a time are read off one after the other. -/
theorem readLooseRfc3339?_parts (date : Date) {hour minute second nanosecond : Nat}
    (hmonth : date.month < 100) (hday : date.day < 100) (hhour : hour ≤ 23)
    (hminute : minute ≤ 59) (hsecond : second ≤ 60) (hnanosecond : nanosecond < 10 ^ 9) :
    readLooseRfc3339? (date.written ++ 'T' :: Text.padded 2 hour ++ ':' :: Text.padded 2 minute ++
        ':' :: Text.padded 2 second ++ writeFraction nanosecond ++ ['Z']) =
      (readingOf? date hour minute second nanosecond).bind (instantAt? · 0) := by
  have hyear (rest : Text) := readYear?_writeYear date.year (endsNumber_cons (c := '-') rfl rest)
  have hfield {n : Nat} (h : n < 100) {c : Char} (hc : c.isDigit = false) (rest : Text) :
      readField? 2 (Text.padded 2 n ++ c :: rest) = some (n, c :: rest) :=
    readField?_padded (by decide) h (endsNumber_cons hc rest)
  have hclock {n most : Nat} (h : n ≤ most) (hmost : most < 100) {c : Char} (hc : c.isDigit = false)
      (rest : Text) : (readField? 2 (Text.padded 2 n ++ c :: rest)).bind (within? 0 most) =
        some (n, c :: rest) := by
    rw [hfield (h.trans_lt hmost) hc, Option.bind_some, within?_eq ⟨Nat.zero_le n, h⟩]
  have hsecond : (readField? 2 (Text.padded 2 second ++ (writeFraction nanosecond ++ ['Z']))).bind
      (within? 0 60) = some (second, writeFraction nanosecond ++ ['Z']) := by
    obtain ⟨c, rest, hc, hrest⟩ : ∃ c rest, c.isDigit = false ∧
        writeFraction nanosecond ++ ['Z'] = c :: rest := by
      unfold writeFraction
      split
      · exact ⟨'Z', [], rfl, rfl⟩
      · split
        · exact ⟨'.', _, rfl, rfl⟩
        · split <;> exact ⟨'.', _, rfl, rfl⟩
    rw [hrest]
    exact hclock hsecond (by decide) hc rest
  have hfraction : readFraction? (writeFraction nanosecond ++ ['Z']) = some (nanosecond, ['Z']) :=
    readFraction?_writeFraction hnanosecond (endsNumber_cons rfl []) (by decide)
  have hoffset : readLooseOffset? (Text.trimStart ['Z']) = some (0, []) := by decide
  have hdash (rest : Text) : dropMark? '-' ('-' :: rest) = some rest := dropMark?_cons rfl rest
  have hcolon (rest : Text) : dropMark? ':' (':' :: rest) = some rest := dropMark?_cons rfl rest
  have hseparator (rest : Text) : dropSeparator? ('T' :: rest) = some rest := rfl
  have htext : date.written ++ 'T' :: Text.padded 2 hour ++ ':' :: Text.padded 2 minute ++
      ':' :: Text.padded 2 second ++ writeFraction nanosecond ++ ['Z'] =
      writeYear date.year ++ '-' :: (Text.padded 2 date.month ++ '-' :: (Text.padded 2 date.day ++
        'T' :: (Text.padded 2 hour ++ ':' :: (Text.padded 2 minute ++ ':' ::
          (Text.padded 2 second ++ (writeFraction nanosecond ++ ['Z'])))))) := by
    rw [Date.written]
    simp only [List.append_assoc, List.cons_append]
  rw [htext, readLooseRfc3339?]
  refine bind_eq_of_eq_some (hyear _) ?_
  refine bind_eq_of_eq_some (hdash _) ?_
  refine bind_eq_of_eq_some (hfield hmonth rfl _) ?_
  refine bind_eq_of_eq_some (hdash _) ?_
  refine bind_eq_of_eq_some (hfield hday rfl _) ?_
  refine bind_eq_of_eq_some (hseparator _) ?_
  refine bind_eq_of_eq_some (hclock hhour (by decide) rfl _) ?_
  refine bind_eq_of_eq_some (hcolon _) ?_
  refine bind_eq_of_eq_some (hclock hminute (by decide) rfl _) ?_
  refine bind_eq_of_eq_some (hcolon _) ?_
  refine bind_eq_of_eq_some hsecond ?_
  refine bind_eq_of_eq_some hfraction ?_
  exact bind_eq_of_eq_some hoffset rfl

namespace Instant

theorem isValid_reading (t : Instant) : (t.reading 0).date.isValid = true := by
  have hfirst : Date.number ⟨Date.firstYear, 1, 1⟩ * 86400 ≤ t.second := t.first_le
  have hlast : t.second ≤ Date.number ⟨Date.lastYear, 12, 31⟩ * 86400 + 86399 := t.le_last
  exact Date.isValid_ofNumber (by omega) (by omega)

theorem instantAt?_reading (t : Instant) : instantAt? (t.reading 0) 0 = some ⟨t, 0⟩ := by
  have hrange : ofReading? (t.reading 0) 0 = some t := by
    rw [ofReading?, ofSecond?_eq_some_iff, reading, DateTime.second_ofSecond]
    exact ⟨by omega, rfl⟩
  rw [instantAt?, if_pos (by decide), hrange]
  rfl

/-- The fields that are written are those of the reading that is read back. -/
theorem readingOf?_reading (t : Instant) :
    readingOf? (t.reading 0).date (t.reading 0).time.hour (t.reading 0).time.minute
      ((t.reading 0).time.second + t.nanosecond / 1000000000) (t.nanosecond % 1000000000) =
      some (t.settled.reading 0) := by
  have hbound := t.nanosecond_lt
  have hsecond : (t.reading 0).time.second = ((t.second + 0) % 86400).toNat % 60 := rfl
  rw [readingOf?, if_pos t.isValid_reading, Option.some_inj]
  unfold settled
  by_cases hover : 1000000000 ≤ t.nanosecond
  · have hrest : t.nanosecond = t.nanosecond % 1000000000 + 1000000000 := by omega
    by_cases hlast : t.second % 60 = 59
    · have hfinal : (t.reading 0).time.second = 59 := by omega
      rw [dif_neg (by omega), if_pos (by omega), ← hrest, ← hfinal]
      rfl
    · have hone : t.nanosecond / 1000000000 = 1 := by omega
      have hfraction : t.nanosecond - 1000000000 = t.nanosecond % 1000000000 := by omega
      have hwithin : (t.second + 0) % 60 ≠ 59 := by omega
      have hnext := DateTime.ofSecond_succ hwithin (t.nanosecond % 1000000000)
      rw [dif_pos ⟨hover, hlast⟩, if_neg (by omega), hone]
      change _ = DateTime.ofSecond (t.second + 1 + 0) (t.nanosecond - 1000000000)
      rw [Int.add_right_comm, hfraction, hnext]
      rfl
  · rw [dif_neg (by omega), if_neg (by omega), Nat.mod_eq_of_lt (by omega),
      Nat.div_eq_of_lt (by omega)]
    rfl

/-- Every instant is read back, up to a leap second within a minute. -/
theorem readLooseRfc3339?_written (t : Instant) :
    readLooseRfc3339? t.written = some ⟨t.settled, 0⟩ := by
  have hbound := t.nanosecond_lt
  have htime : (t.reading 0).time.hour ≤ 23 ∧ (t.reading 0).time.minute ≤ 59 ∧
      (t.reading 0).time.second + t.nanosecond / 1000000000 ≤ 60 := by
    simp only [reading, DateTime.ofSecond]
    omega
  obtain ⟨hmonth, hday⟩ := Date.bounds_of_isValid t.isValid_reading
  have hrest : t.nanosecond % 1000000000 < 10 ^ 9 := by omega
  have hparts :=
    readLooseRfc3339?_parts (t.reading 0).date hmonth hday htime.1 htime.2.1 htime.2.2 hrest
  rw [t.readingOf?_reading] at hparts
  exact hparts.trans t.settled.instantAt?_reading

end Instant

section Read

theorem lt_of_readFraction? {text rest : Text} {nanosecond : Nat}
    (h : readFraction? text = some (nanosecond, rest)) : nanosecond < 10 ^ 9 := by
  unfold readFraction? at h
  split at h
  · unfold readNanoseconds? at h
    dsimp only at h
    split at h
    · cases h
    · obtain ⟨rfl, -⟩ := Prod.mk.inj (Option.some.inj h)
      refine (digitsValue_lt fun c hc => ?_).trans_le
        (Nat.pow_le_pow_right (by decide) (List.length_take_le 9 _))
      rcases List.mem_append.1 (List.mem_of_mem_take hc) with hc | hc
      · exact List.mem_takeWhile_imp hc
      · rw [List.eq_of_mem_replicate hc]
        rfl
  · obtain ⟨rfl, -⟩ := Prod.mk.inj (Option.some.inj h)
    decide

theorem readOffset?_emod {separator : Text → Option Text} {text rest : Text} {offset : Int}
    (h : readOffset? separator text = some (offset, rest)) : offset % 60 = 0 := by
  unfold readOffset? at h
  split at h
  · cases h
  · split at h
    · obtain ⟨rfl, -⟩ := Prod.mk.inj (Option.some.inj h)
      rfl
    · split at h
      · simp only [Option.bind_eq_bind, Option.bind_eq_some_iff] at h
        obtain ⟨⟨hours, _⟩, -, _, -, ⟨minutes, _⟩, -, h⟩ := h
        obtain ⟨rfl, -⟩ := Prod.mk.inj (Option.some.inj h)
        split <;> omega
      · cases h

/-- A second of sixty is read as the leap second after the last one. -/
theorem leapEndsMinute_of_readLooseRfc3339? {text : Text} {t : OffsetInstant}
    (h : readLooseRfc3339? text = some t) : t.instant.LeapEndsMinute := by
  obtain ⟨⟨year, _⟩, -, h⟩ := Option.bind_eq_some_iff.1 h
  obtain ⟨_, -, h⟩ := Option.bind_eq_some_iff.1 h
  obtain ⟨⟨month, _⟩, -, h⟩ := Option.bind_eq_some_iff.1 h
  obtain ⟨_, -, h⟩ := Option.bind_eq_some_iff.1 h
  obtain ⟨⟨day, _⟩, -, h⟩ := Option.bind_eq_some_iff.1 h
  obtain ⟨_, -, h⟩ := Option.bind_eq_some_iff.1 h
  obtain ⟨⟨hour, _⟩, -, h⟩ := Option.bind_eq_some_iff.1 h
  obtain ⟨_, -, h⟩ := Option.bind_eq_some_iff.1 h
  obtain ⟨⟨minute, _⟩, -, h⟩ := Option.bind_eq_some_iff.1 h
  obtain ⟨_, -, h⟩ := Option.bind_eq_some_iff.1 h
  obtain ⟨⟨second, _⟩, -, h⟩ := Option.bind_eq_some_iff.1 h
  obtain ⟨⟨nanosecond, rest⟩, hfraction, h⟩ := Option.bind_eq_some_iff.1 h
  obtain ⟨⟨offset, _⟩, hoffset, h⟩ := Option.bind_eq_some_iff.1 h
  obtain ⟨_, -, h⟩ := Option.bind_eq_some_iff.1 h
  obtain ⟨reading, hreading, hinstant⟩ := Option.bind_eq_some_iff.1 h
  have hsmall := lt_of_readFraction? hfraction
  have hminutes : offset % 60 = 0 := by
    unfold readLooseOffset? at hoffset
    split at hoffset
    · obtain ⟨rfl, -⟩ := Prod.mk.inj (Option.some.inj hoffset)
      rfl
    · exact readOffset?_emod hoffset
  have hleap : 1000000000 ≤ reading.time.nanosecond → reading.time.second = 59 := by
    unfold readingOf? at hreading
    split at hreading
    · obtain rfl := Option.some.inj hreading
      dsimp only
      split
      · exact fun _ => rfl
      · exact fun hover => absurd hover (by dsimp only; omega)
    · cases hreading
  obtain ⟨hsecond, hnanosecond⟩ := instant_of_instantAt? hinstant
  intro hover
  rw [hnanosecond] at hover
  rw [hsecond, DateTime.second, hleap hover]
  omega

end Read

end EventText
