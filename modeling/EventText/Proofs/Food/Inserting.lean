import EventText.Proofs.Bytes.Marking

/-! What marking puts in, and where. The rule for marks is stated on its own: which mark a label gets
depends on its food and on the text before it (`Marks`), and a text is marked by giving each of its labels
that mark and leaving all else (`LabelsMarked`). Marking follows this rule, and so does marking by bytes
(`annotateFood_eq_iff`). -/

namespace EventText

/-- What goes in front of a label with this food behind this text: the emoji of the first keyword in the
food and a space, unless the text already ends in some emoji of the table and a space. -/
inductive Marks (before food : Text) : Text → Prop where
  | known {first others : List (Text × Text)} {keyword emoji : Text} :
      foodEmojis = first ++ (keyword, emoji) :: others →
        (∀ entry ∈ first, ¬ entry.1 <:+: food.lower) → keyword <:+: food.lower →
          (∀ entry ∈ foodEmojis, ¬ entry.2 ++ [' '] <:+ before) → Marks before food (emoji ++ [' '])
  | unknown : (∀ entry ∈ foodEmojis, ¬ entry.1 <:+: food.lower) → Marks before food []
  | already {entry : Text × Text} : entry ∈ foodEmojis → entry.2 ++ [' '] <:+ before →
      Marks before food []

/-- The result is the text, which stands behind `before`, with the right mark in front of each of its
labels. The labels are those met from left to right: a character where none begins is passed over, and a
label is passed over as a whole. -/
inductive LabelsMarked : Text → Text → Text → Prop where
  | nil {before : Text} : LabelsMarked before [] []
  | letter {before text result : Text} {c : Char} :
      (∀ food rest, '<' ∉ food → c :: text ≠ foodText food ++ rest) →
        LabelsMarked (before ++ [c]) text result → LabelsMarked before (c :: text) (c :: result)
  | label {before food mark text result : Text} : '<' ∉ food → Marks before food mark →
      LabelsMarked (before ++ foodText food) text result →
        LabelsMarked before (foodText food ++ text) (mark ++ foodText food ++ result)

theorem Text.hasPart_iff {part text : Text} : hasPart part text = true ↔ part <:+: text := by
  induction text with
  | nil => simp [hasPart]
  | cons c rest ih =>
    rw [hasPart, Bool.or_eq_true, ih, List.isPrefixOf_iff_prefix, List.infix_cons_iff]

theorem foodEmoji?_eq_none_iff {food : Text} :
    foodEmoji? food = none ↔ ∀ entry ∈ foodEmojis, ¬ entry.1 <:+: food.lower := by
  simp only [foodEmoji?, Option.map_eq_none_iff, List.find?_eq_none, Text.hasPart_iff]

theorem foodEmoji?_eq_some_iff {food emoji : Text} :
    foodEmoji? food = some emoji ↔ ∃ first others keyword,
      foodEmojis = first ++ (keyword, emoji) :: others ∧
        (∀ entry ∈ first, ¬ entry.1 <:+: food.lower) ∧ keyword <:+: food.lower := by
  simp only [foodEmoji?, Option.map_eq_some_iff, List.find?_eq_some_iff_append, Text.hasPart_iff,
    Bool.not_eq_true', ← Bool.not_eq_true]
  constructor
  · rintro ⟨⟨keyword, emoji⟩, ⟨hkeyword, first, others, htable, hfirst⟩, rfl⟩
    exact ⟨first, others, keyword, htable, hfirst, hkeyword⟩
  · rintro ⟨first, others, keyword, htable, hfirst, hkeyword⟩
    exact ⟨(keyword, emoji), ⟨hkeyword, first, others, htable, hfirst⟩, rfl⟩

theorem endsMarked_reverse_iff {before : Text} :
    endsMarked before.reverse = true ↔ ∃ entry ∈ foodEmojis, entry.2 ++ [' '] <:+ before := by
  simp only [endsMarked, List.any_eq_true, List.isPrefixOf_iff_prefix, List.reverse_prefix, foodMark]

theorem marks_iff {before food mark : Text} :
    Marks before food mark ↔ mark = markOf before.reverse [(1, food)] := by
  rw [markOf_label]
  constructor
  · intro h
    cases h with
    | @known first others keyword emoji htable hfirst hkeyword hfree =>
      have hemoji := foodEmoji?_eq_some_iff.2 ⟨first, others, keyword, htable, hfirst, hkeyword⟩
      have hends : ¬ endsMarked before.reverse = true := fun h => by
        obtain ⟨entry, hentry, hsuffix⟩ := endsMarked_reverse_iff.1 h
        exact hfree entry hentry hsuffix
      simp only [hemoji, hends, Bool.false_eq_true, ↓reduceIte, foodMark]
    | unknown hnone => rw [foodEmoji?_eq_none_iff.2 hnone]
    | already hentry hsuffix =>
      have hends := endsMarked_reverse_iff.2 ⟨_, hentry, hsuffix⟩
      cases foodEmoji? food with
      | none => rfl
      | some emoji => simp only [hends, ↓reduceIte]
  · rintro rfl
    cases hemoji : foodEmoji? food with
    | none => exact .unknown (foodEmoji?_eq_none_iff.1 hemoji)
    | some emoji =>
      obtain ⟨first, others, keyword, htable, hfirst, hkeyword⟩ := foodEmoji?_eq_some_iff.1 hemoji
      by_cases hends : endsMarked before.reverse = true
      · obtain ⟨entry, hentry, hsuffix⟩ := endsMarked_reverse_iff.1 hends
        simp only [hends, ↓reduceIte]
        exact .already hentry hsuffix
      · simp only [hends, Bool.false_eq_true, ↓reduceIte]
        refine .known htable hfirst hkeyword fun entry hentry hsuffix => ?_
        exact hends (endsMarked_reverse_iff.2 ⟨entry, hentry, hsuffix⟩)

namespace LabelsMarked

open Found

theorem of_searched {parts : List Found} (h : foodPattern.Searched parts) (before : Text) :
    LabelsMarked before (written parts) (markFrom before.reverse parts) := by
  induction h generalizing before with
  | nil => exact .nil
  | @letter c rest hnone _ ih =>
    have hrest := ih (before ++ [c])
    rw [List.reverse_append] at hrest
    exact .letter (matchFront?_eq_none_iff.1 hnone) hrest
  | @hit text captures rest hne hsome hparts ih =>
    obtain ⟨food, hfood, rfl, rfl⟩ := hit_of_searched (.hit hne hsome hparts)
    have hrest := ih (before ++ foodText food)
    rw [List.reverse_append] at hrest
    exact .label hfood (marks_iff.2 rfl) hrest

theorem eq_markFrom {before text result : Text} (h : LabelsMarked before text result) :
    result = markFrom before.reverse (foodPattern.scan text) := by
  induction h with
  | nil => rw [Pattern.scan, markFrom]
  | @letter before text result c hnone _ ih =>
    rw [Pattern.scan_of_none (matchFront?_eq_none_iff.2 hnone), markFrom, ih,
      List.reverse_append]
    rfl
  | @label before food mark text result hfood hmark _ ih =>
    have hfront : foodPattern.matchFront? (foodText food ++ text) = some ([(1, food)], text) :=
      matchFront?_eq_some_iff.2 ⟨food, hfood, rfl, rfl⟩
    rw [Pattern.scan_of_some (foodText_ne_nil food) hfront, markFrom, ← marks_iff.1 hmark, ih,
      List.reverse_append]

end LabelsMarked

/-- Marking puts the right mark in front of each label and does nothing else, over the characters of the
text as over its bytes. -/
theorem annotateFood_eq_iff {text result : Text} :
    (annotateFood text = result ↔ LabelsMarked [] text result) ∧
    (annotateFoodAt? text = some result ↔ LabelsMarked [] text result) := by
  have hmarked : annotateFood text = result ↔ LabelsMarked [] text result := by
    constructor
    · rintro rfl
      obtain ⟨hparts, hwritten⟩ := Pattern.searched_scan consumes_foodPattern text
      have hrule := LabelsMarked.of_searched hparts []
      rwa [hwritten] at hrule
    · intro h
      exact h.eq_markFrom.symm
  refine ⟨hmarked, ?_⟩
  rw [annotateFoodAt?_eq, Option.some_inj]
  exact hmarked

end EventText
