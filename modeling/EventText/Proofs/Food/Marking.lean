import EventText.Food
import EventText.Proofs.Template.Reading
import EventText.Proofs.Text.Search

/-! Marking food labels. A label is its fixed beginning, a food without `<`, and its fixed end
(`matchFront?_eq_some_iff`). Marks stand in front of labels only, so none comes to stand inside a
label and none makes a new one (`Marked.label`); the second marking finds the labels of the first
one, each with its mark (`annotateFood_annotateFood`). -/

namespace EventText

def foodStart : Text :=
  foodLabel ++ " <b>".toList

def foodEnd : Text :=
  "</b>".toList

def foodText (food : Text) : Text :=
  foodStart ++ (food ++ foodEnd)

def foodMarks : List Text :=
  foodEmojis.map fun entry => foodMark entry.2

theorem length_of_mem_foodMarks {mark : Text} (h : mark ∈ foodMarks) : mark.length = 2 := by
  have hall : ∀ mark ∈ foodMarks, mark.length = 2 := by decide
  exact hall mark h

theorem ne_of_mem_mark {mark : Text} (h : mark ∈ foodMarks) {c : Char} (hc : c ∈ mark) :
    c ≠ 'W' ∧ c ≠ '<' := by
  have hall : ∀ mark ∈ foodMarks, 'W' ∉ mark ∧ '<' ∉ mark := by decide
  obtain ⟨hletter, hbracket⟩ := hall mark h
  exact ⟨ne_of_mem_of_not_mem hc hletter, ne_of_mem_of_not_mem hc hbracket⟩

section Label

open Pattern

theorem matchFront?_foodPattern (text : Text) :
    foodPattern.matchFront? text =
      (foodStart.isPrefixOf? text).bind fun rest =>
        (foodEnd.isPrefixOf? (rest.dropWhile (· != '<'))).bind fun after =>
          some ([(1, rest.takeWhile (· != '<'))], after) := by
  let next (start : Text) : Text → Option (Captures × Text) := fun rest =>
    (foodEnd.isPrefixOf? rest).bind fun after =>
      some ([(1, start.take (start.length - rest.length))], after)
  have hunfold : foodPattern.matchFront? text =
      (foodStart.isPrefixOf? text).bind fun rest => attemptRun (· != '<') (next rest) rest := by
    simp only [foodPattern, matchFront?, attempt, attempt_literal, List.nil_append]
    rfl
  have hstop : ∀ start c rest, (c != '<') = true → next start (c :: rest) = none := by
    intro start c rest hc
    have hne : '<' ≠ c := fun h => by simp [← h] at hc
    simp [next, foodEnd, List.isPrefixOf?, hne]
  rw [hunfold]
  congr 1
  funext rest
  rw [attemptRun_eq _ _ (hstop rest)]
  simp only [next, take_length_sub_dropWhile]

theorem not_mem_iff_all {food : Text} : '<' ∉ food ↔ ∀ c ∈ food, (c != '<') = true := by
  simp only [bne_iff_ne]
  exact ⟨fun h c hc hlt => h (hlt ▸ hc), fun h hmem => h _ hmem rfl⟩

theorem matchFront?_eq_some_iff {text after : Text} {captures : Captures} :
    foodPattern.matchFront? text = some (captures, after) ↔
      ∃ food, '<' ∉ food ∧ captures = [(1, food)] ∧ text = foodText food ++ after := by
  rw [matchFront?_foodPattern]
  simp only [Option.bind_eq_some_iff, List.isPrefixOf?_eq_some_iff_append_eq, Option.some.injEq,
    Prod.mk.injEq]
  constructor
  · rintro ⟨rest, rfl, after, hend, rfl, rfl⟩
    refine ⟨rest.takeWhile (· != '<'), ?_, rfl, ?_⟩
    · exact not_mem_iff_all.2 fun c hc => List.mem_takeWhile_imp (p := (· != '<')) hc
    · rw [foodText, List.append_assoc, List.append_assoc, hend, List.takeWhile_append_dropWhile]
  · rintro ⟨food, hfood, rfl, rfl⟩
    have hall := not_mem_iff_all.1 hfood
    have hrest : food ++ foodEnd ++ after = food ++ '<' :: ("/b>".toList ++ after) := by
      simp [foodEnd]
    refine ⟨food ++ foodEnd ++ after, by simp [foodText], after, ?_, ?_, rfl⟩
    · rw [hrest, dropWhile_append_stop '<' _ hall (by decide)]
      rfl
    · rw [hrest, takeWhile_append_stop '<' _ hall (by decide)]

theorem matchFront?_eq_none_iff {text : Text} :
    foodPattern.matchFront? text = none ↔ ∀ food rest, '<' ∉ food → text ≠ foodText food ++ rest := by
  rw [Option.eq_none_iff_forall_ne_some]
  constructor
  · intro h food rest hfood htext
    exact h ([(1, food)], rest) (matchFront?_eq_some_iff.2 ⟨food, hfood, rfl, htext⟩)
  · rintro h ⟨captures, after⟩ hsome
    obtain ⟨food, hfood, -, htext⟩ := matchFront?_eq_some_iff.1 hsome
    exact h food after hfood htext

theorem foodText_ne_nil (food : Text) : foodText food ≠ [] :=
  List.cons_ne_nil _ _

theorem consumes_foodPattern : foodPattern.Consumes := by
  intro text captures after h
  obtain ⟨food, -, -, rfl⟩ := matchFront?_eq_some_iff.1 h
  exact ⟨foodText food, foodText_ne_nil food, rfl⟩

end Label

/-- The second text is the first with marks in front of some of its labels. -/
inductive Marked : Text → Text → Prop where
  | nil : Marked [] []
  | cons {c : Char} {mark a b : Text} :
      (mark = [] ∨ mark ∈ foodMarks ∧ foodStart <+: c :: a) → Marked a b →
        Marked (c :: a) (mark ++ c :: b)

namespace Marked

theorem letter {a b : Text} (c : Char) (h : Marked a b) : Marked (c :: a) (c :: b) :=
  cons (.inl rfl) h

theorem append_left {a b : Text} (h : Marked a b) (text : Text) :
    Marked (text ++ a) (text ++ b) := by
  induction text with
  | nil => exact h
  | cons c text ih => exact letter c ih

/-- Marks are put in, and nothing is taken out. -/
theorem sublist {a b : Text} (h : Marked a b) : a.Sublist b := by
  induction h with
  | nil => exact .slnil
  | @cons c mark a b _ _ ih => exact (ih.cons_cons c).trans (List.sublist_append_right mark _)

/-- A text that no mark can begin in was there before. -/
theorem of_append {text a after : Text} (htext : ∀ c ∈ text, ∀ mark ∈ foodMarks, mark.head? ≠ some c)
    (h : Marked a (text ++ after)) : ∃ rest, a = text ++ rest ∧ Marked rest after := by
  induction text generalizing a with
  | nil => exact ⟨a, rfl, h⟩
  | cons c text ih =>
    rw [List.forall_mem_cons] at htext
    generalize hb : c :: text ++ after = b at h
    cases h with
    | nil => cases hb
    | @cons d mark a b hmark h =>
      rcases hmark with rfl | ⟨hmark, -⟩
      · obtain ⟨rfl, rfl⟩ := List.cons.inj hb
        obtain ⟨rest, rfl, hrest⟩ := ih htext.2 h
        exact ⟨rest, rfl, hrest⟩
      · cases mark with
        | nil => exact absurd (length_of_mem_foodMarks hmark) (by decide)
        | cons m mark =>
          obtain ⟨rfl, -⟩ := List.cons.inj hb
          exact absurd rfl (htext.1 _ hmark)

theorem head?_ne_of_mem {c : Char} (hc : c ∈ foodStart ++ foodEnd) :
    ∀ mark ∈ foodMarks, mark.head? ≠ some c := by
  have hall : (foodStart ++ foodEnd).all
      (fun c => foodMarks.all fun mark => mark.head? != some c) = true := by decide
  simpa using List.all_eq_true.1 hall c hc

/-- The food of a label does not run on into the beginning of another one. -/
theorem not_foodStart {food rest : Text} (hfood : '<' ∉ food) :
    ¬ foodStart <+: food ++ (foodEnd ++ rest) := by
  rintro ⟨after, hafter⟩
  have hdrop := congrArg (List.dropWhile (· != '<')) hafter
  have hend : food ++ (foodEnd ++ rest) = food ++ '<' :: ("/b>".toList ++ rest) := rfl
  rw [hend, dropWhile_append_stop '<' _ (not_mem_iff_all.1 hfood) (by decide)] at hdrop
  cases hdrop

/-- A mark and the first letter of a label cannot reach beyond a food to the end of its label. -/
theorem exists_food_of_mark {food mark after b : Text} (hmark : mark ∈ foodMarks)
    (h : food ++ (foodEnd ++ after) = mark ++ 'W' :: b) :
    ∃ rest, food = mark ++ 'W' :: rest ∧ rest ++ (foodEnd ++ after) = b := by
  rcases List.append_eq_append_iff.1 h with ⟨between, rfl, hend⟩ | ⟨rest, rfl, hend⟩
  · cases between with
    | nil => exact absurd (List.cons.inj hend).1 (by decide)
    | cons d between =>
      obtain rfl : '<' = d := (List.cons.inj hend).1
      have hmem : '<' ∈ food ++ '<' :: between := by simp
      exact absurd rfl (ne_of_mem_mark hmark hmem).2
  · cases rest with
    | nil => exact absurd (List.cons.inj hend).1 (by decide)
    | cons d rest =>
      obtain ⟨rfl, htail⟩ := List.cons.inj hend
      exact ⟨rest, rfl, htail.symm⟩

/-- A food with the end of its label was there before. -/
theorem of_food {food a after : Text} (hfood : '<' ∉ food)
    (h : Marked a (food ++ (foodEnd ++ after))) :
    ∃ rest, a = food ++ (foodEnd ++ rest) ∧ Marked rest after := by
  generalize hb : food ++ (foodEnd ++ after) = b at h
  induction h generalizing food with
  | nil => simp [foodEnd] at hb
  | @cons c mark a b hmark h ih =>
    rcases hmark with rfl | ⟨hmark, hstart⟩
    · cases food with
      | nil =>
        have hall : ∀ c ∈ foodEnd, ∀ mark ∈ foodMarks, mark.head? ≠ some c :=
          fun c hc => head?_ne_of_mem (List.mem_append_right _ hc)
        exact of_append hall (hb ▸ letter c h)
      | cons d food =>
        obtain ⟨rfl, htail⟩ := List.cons.inj hb
        obtain ⟨rest, rfl, hrest⟩ := ih (fun hmem => hfood (List.mem_cons_of_mem _ hmem)) htail
        exact ⟨rest, rfl, hrest⟩
    · -- the mark would stand in the food, and the label behind it could not go on as a label does
      exfalso
      obtain rfl : 'W' = c := by
        obtain ⟨t, ht⟩ := hstart
        exact (List.cons.inj ht).1
      obtain ⟨food, rfl, htail⟩ := exists_food_of_mark hmark hb
      have hlabel : '<' ∉ 'W' :: food := fun hmem => hfood (List.mem_append_right _ hmem)
      obtain ⟨rest, rfl, -⟩ := ih (fun hmem => hlabel (List.mem_cons_of_mem _ hmem)) htail
      exact not_foodStart hlabel hstart

theorem of_label {food a after : Text} (hfood : '<' ∉ food)
    (h : Marked a (foodText food ++ after)) : ∃ rest, a = foodText food ++ rest := by
  have hstart : ∀ c ∈ foodStart, ∀ mark ∈ foodMarks, mark.head? ≠ some c :=
    fun c hc => head?_ne_of_mem (List.mem_append_left _ hc)
  rw [foodText, List.append_assoc, List.append_assoc] at h
  obtain ⟨rest, rfl, hrest⟩ := of_append hstart h
  obtain ⟨rest, rfl, -⟩ := of_food hfood hrest
  exact ⟨rest, by rw [foodText, List.append_assoc, List.append_assoc]⟩

/-- Marks make no new label. -/
theorem matchFront?_eq_none {a b : Text} (h : Marked a b)
    (hnone : foodPattern.matchFront? a = none) : foodPattern.matchFront? b = none := by
  rw [matchFront?_eq_none_iff] at hnone ⊢
  rintro food after hfood rfl
  obtain ⟨rest, hlabel⟩ := h.of_label hfood
  exact hnone food rest hfood hlabel

end Marked

section Parts

open Found

def markParts (before : Text) : List Found → List Found
  | [] => []
  | .letter c :: rest => .letter c :: markParts (c :: before) rest
  | .hit text captures :: rest =>
    (markOf before captures).map .letter ++ .hit text captures :: markParts (text.reverse ++ before) rest

theorem written_markParts (before : Text) (parts : List Found) :
    written (markParts before parts) = markFrom before parts := by
  induction parts generalizing before with
  | nil => rfl
  | cons part rest ih =>
    cases part with
    | letter c => rw [markParts, written_letter, ih, markFrom]
    | hit text captures =>
      rw [markParts, written_letters, written_hit, ih, markFrom, List.append_assoc]

theorem mem_foodMarks_of_foodEmoji? {food emoji : Text} (h : foodEmoji? food = some emoji) :
    foodMark emoji ∈ foodMarks := by
  obtain ⟨entry, hfind, rfl⟩ := Option.map_eq_some_iff.1 h
  exact List.mem_map_of_mem (List.mem_of_find?_eq_some hfind)

theorem markOf_label (before food : Text) :
    markOf before [(1, food)] =
      match foodEmoji? food with
      | some emoji => if endsMarked before then [] else foodMark emoji
      | none => [] :=
  rfl

theorem markOf_cases (before : Text) (captures : Captures) :
    markOf before captures = [] ∨ markOf before captures ∈ foodMarks := by
  unfold markOf
  split
  · rename_i emoji hemoji
    split
    · exact .inl rfl
    · exact .inr (mem_foodMarks_of_foodEmoji? hemoji)
  · exact .inl rfl

theorem hit_of_searched {text : Text} {captures : Captures} {rest : List Found}
    (h : foodPattern.Searched (.hit text captures :: rest)) :
    ∃ food, '<' ∉ food ∧ captures = [(1, food)] ∧ text = foodText food := by
  cases h with
  | hit _ hsome _ =>
    obtain ⟨food, hfood, hcaptures, htext⟩ := matchFront?_eq_some_iff.1 hsome
    exact ⟨food, hfood, hcaptures, List.append_cancel_right htext⟩

theorem marked_markFrom {parts : List Found} (h : foodPattern.Searched parts) (before : Text) :
    Marked (written parts) (markFrom before parts) := by
  induction h generalizing before with
  | nil => exact .nil
  | letter _ _ ih => exact (ih _).letter _
  | @hit text captures rest hne hsome hrest ih =>
    obtain ⟨food, -, -, rfl⟩ := hit_of_searched (.hit hne hsome hrest)
    obtain ⟨tail, htail⟩ : ∃ tail, foodText food = 'W' :: tail := ⟨_, rfl⟩
    have hstart : foodStart <+: foodText food ++ written rest :=
      ⟨food ++ foodEnd ++ written rest, by simp [foodText]⟩
    have hmark := (markOf_cases before captures).imp_right fun hmem => And.intro hmem hstart
    have hafter := (ih ((foodText food).reverse ++ before)).append_left tail
    rw [written_hit, markFrom, List.append_assoc]
    rw [htail, List.cons_append] at hmark
    rw [htail, List.cons_append, List.cons_append] at *
    exact .cons hmark hafter

theorem Pattern.Searched.letters {parts : List Found} (h : foodPattern.Searched parts) {text : Text}
    (htext : ∀ c ∈ text, c ≠ 'W') : foodPattern.Searched (text.map .letter ++ parts) := by
  induction text with
  | nil => exact h
  | cons c text ih =>
    rw [List.forall_mem_cons] at htext
    refine .letter (matchFront?_eq_none_iff.2 ?_) (ih htext.2)
    intro food rest _ hlabel
    exact htext.1 (List.cons.inj hlabel).1

theorem searched_markParts {parts : List Found} (h : foodPattern.Searched parts) (before : Text) :
    foodPattern.Searched (markParts before parts) := by
  induction h generalizing before with
  | nil => exact .nil
  | @letter c rest hnone hrest ih =>
    refine .letter ?_ (ih _)
    rw [written_markParts]
    exact ((marked_markFrom hrest _).letter c).matchFront?_eq_none hnone
  | @hit text captures rest hne hsome hrest ih =>
    obtain ⟨food, hfood, hcaptures, rfl⟩ := hit_of_searched (.hit hne hsome hrest)
    have hletters : ∀ c ∈ markOf before captures, c ≠ 'W' := by
      intro c hc
      rcases markOf_cases before captures with hnil | hmem
      · rw [hnil] at hc
        cases hc
      · exact (ne_of_mem_mark hmem hc).1
    refine Pattern.Searched.letters (.hit hne ?_ (ih _)) hletters
    exact matchFront?_eq_some_iff.2 ⟨food, hfood, hcaptures, rfl⟩

/-- Whether a label has its mark is seen from the two characters before it. -/
theorem endsMarked_iff {before : Text} :
    endsMarked before = true ↔ ∃ mark ∈ foodMarks, before.take 2 = mark.reverse := by
  have hsuffix : ∀ mark ∈ foodMarks, mark.reverse <+: before ↔ before.take 2 = mark.reverse := by
    intro mark hmark
    rw [List.prefix_iff_eq_take, List.length_reverse, length_of_mem_foodMarks hmark, eq_comm]
  have hends : endsMarked before = true ↔ ∃ mark ∈ foodMarks, mark.reverse <+: before := by
    simp [endsMarked, foodMarks]
  rw [hends]
  exact exists_congr fun mark => and_congr_right (hsuffix mark)

theorem endsMarked_mark {mark : Text} (h : mark ∈ foodMarks) (before : Text) :
    endsMarked (mark.reverse ++ before) = true := by
  refine endsMarked_iff.2 ⟨mark, h, ?_⟩
  rw [← length_of_mem_foodMarks h, ← List.length_reverse, List.take_left]

/-- A label behind its mark gets no other one. -/
theorem markOf_again {a b : Text} (h : b.take 2 = a.take 2) (captures : Captures) :
    markOf ((markOf a captures).reverse ++ b) captures = [] := by
  unfold markOf
  cases hemoji : foodEmoji? ((captures.get? 1).getD []) with
  | none => rfl
  | some emoji =>
    by_cases hends : endsMarked a = true
    · have hb : endsMarked b = true := by rwa [endsMarked_iff, h, ← endsMarked_iff]
      simp [hends, hb]
    · have hmark := endsMarked_mark (mem_foodMarks_of_foodEmoji? hemoji) b
      simp only [hends, Bool.false_eq_true, ↓reduceIte, hmark]

theorem markFrom_letters (before text : Text) (rest : List Found) :
    markFrom before (text.map .letter ++ rest) = text ++ markFrom (text.reverse ++ before) rest := by
  induction text generalizing before with
  | nil => rfl
  | cons c text ih => simp [markFrom, ih]

/-- Behind a label stand the last two characters of its end, whatever its food. -/
theorem take_two_foodText (food before : Text) :
    ((foodText food).reverse ++ before).take 2 = foodEnd.reverse.take 2 := by
  rw [foodText, List.reverse_append, List.reverse_append]
  rfl

theorem markFrom_markParts {parts : List Found} (h : foodPattern.Searched parts) {a b : Text}
    (hab : b.take 2 = a.take 2) : markFrom b (markParts a parts) = written (markParts a parts) := by
  -- what stands before a label differs, after the first marking, but for the last two characters
  induction h generalizing a b with
  | nil => rfl
  | @letter c rest _ _ ih =>
    have hcons : (c :: b).take 2 = (c :: a).take 2 := by
      have htake := congrArg (List.take 1) hab
      simpa [List.take_take] using htake
    rw [markParts, markFrom, ih hcons, written_letter]
  | @hit text captures rest hne hsome hrest ih =>
    obtain ⟨food, -, -, rfl⟩ := hit_of_searched (.hit hne hsome hrest)
    rw [markParts, markFrom_letters, markFrom, markOf_again hab, written_letters, written_hit,
      List.nil_append, ih (by rw [take_two_foodText, take_two_foodText])]

/-- Marking puts marks in front of labels and changes nothing else. -/
theorem marked_annotateFood (text : Text) : Marked text (annotateFood text) := by
  obtain ⟨hparts, hwritten⟩ := Pattern.searched_scan consumes_foodPattern text
  have hmarked := marked_markFrom hparts []
  rwa [hwritten] at hmarked

/-- The labels of a marked text are those of the text before. -/
theorem scan_annotateFood (text : Text) :
    foodPattern.scan (annotateFood text) = markParts [] (foodPattern.scan text) := by
  obtain ⟨hparts, -⟩ := Pattern.searched_scan consumes_foodPattern text
  exact (Pattern.scan_eq_iff consumes_foodPattern).2
    ⟨searched_markParts hparts [], written_markParts [] _⟩

theorem annotateFood_annotateFood (text : Text) :
    annotateFood (annotateFood text) = annotateFood text := by
  obtain ⟨hparts, -⟩ := Pattern.searched_scan consumes_foodPattern text
  calc annotateFood (annotateFood text)
      = markFrom [] (markParts [] (foodPattern.scan text)) := by
        rw [← scan_annotateFood, annotateFood]
    _ = written (markParts [] (foodPattern.scan text)) := markFrom_markParts hparts rfl
    _ = annotateFood text := written_markParts [] _

end Parts

end EventText
