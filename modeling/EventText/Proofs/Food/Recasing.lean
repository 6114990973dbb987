import EventText.Proofs.Food.Marking
import EventText.Proofs.Text.AsciiCase
import Mathlib.Data.List.Forall2

/-! Marking and the case of foods. Whether a label is one, where it stands and what mark its food gets do
not depend on the case of the ASCII letters in the food, so marking commutes with changing it. A marked
text therefore stays as it is when its labels are marked again, also when the case of its foods was
changed in between (`annotateFood_recased`). -/

namespace EventText

/-- The second part is the first, but perhaps for the case of ASCII letters in the food of a label. -/
inductive Found.RecasedAs : Found → Found → Prop where
  | letter (c : Char) : RecasedAs (.letter c) (.letter c)
  | label {food recased : Text} : recased.asciiUpper = food.asciiUpper →
      RecasedAs (.hit (foodText food) [(1, food)]) (.hit (foodText recased) [(1, recased)])

/-- The second text is the first, but perhaps for the case of ASCII letters in the foods of its labels. -/
def FoodsRecased (a b : Text) : Prop :=
  ∃ parts, List.Forall₂ Found.RecasedAs (foodPattern.scan a) parts ∧ Found.written parts = b

theorem eq_of_toUpper_eq_bracket {c : Char} (h : c.toUpper = '<') : c = '<' :=
  toUpper_rec (motive := fun c d => d = '<' → c = '<') (fun _ => id) (by decide) c h

theorem bracket_not_mem_recased {food recased : Text} (h : recased.asciiUpper = food.asciiUpper)
    (hfood : '<' ∉ food) : '<' ∉ recased := by
  intro hmem
  have hupper : '<' ∈ food.asciiUpper := by
    rw [← h]
    exact List.mem_map.2 ⟨'<', hmem, rfl⟩
  obtain ⟨c, hc, hbracket⟩ := List.mem_map.1 hupper
  rw [eq_of_toUpper_eq_bracket hbracket] at hc
  exact hfood hc

theorem length_of_asciiUpper_eq {a b : Text} (h : a.asciiUpper = b.asciiUpper) :
    a.length = b.length := by
  simpa [Text.asciiUpper] using congrArg List.length h

namespace Recased

open Found

variable {parts others : List Found}

theorem length_written (h : List.Forall₂ RecasedAs parts others) :
    (written others).length = (written parts).length := by
  induction h with
  | nil => rfl
  | cons hpart _ ih =>
    cases hpart with
    | letter c => rw [written_letter, written_letter, List.length_cons, List.length_cons, ih]
    | label hfood =>
      simp only [written_hit, foodText, List.length_append, ih, length_of_asciiUpper_eq hfood]

/-- A text in which no label begins was there before. -/
theorem of_append {text after : Text} (htext : 'W' ∉ text)
    (h : List.Forall₂ RecasedAs parts others) (hwritten : written others = text ++ after) :
    ∃ rest behind, written parts = text ++ written rest ∧ written behind = after ∧
      List.Forall₂ RecasedAs rest behind := by
  induction text generalizing parts others with
  | nil => exact ⟨parts, others, rfl, hwritten, h⟩
  | cons c text ih =>
    cases h with
    | nil => cases hwritten
    | cons hpart hrest =>
      cases hpart with
      | letter d =>
        obtain ⟨rfl, htail⟩ := List.cons.inj hwritten
        obtain ⟨rest, behind, hparts, hafter, hcased⟩ :=
          ih (fun hmem => htext (List.mem_cons_of_mem _ hmem)) hrest htail
        exact ⟨rest, behind, by rw [written_letter, hparts, List.cons_append], hafter, hcased⟩
      | label hfood =>
        obtain rfl : 'W' = c := (List.cons.inj hwritten).1
        exact absurd (List.mem_cons_self ..) htext

/-- A food with the end of its label, outside all labels that were found, was there before. -/
theorem of_food {food after : Text} (hfood : '<' ∉ food) (h : List.Forall₂ RecasedAs parts others)
    (hwritten : written others = food ++ (foodEnd ++ after)) :
    ∃ rest, written parts = food ++ (foodEnd ++ rest) := by
  induction h generalizing food with
  | nil => simp [foodEnd] at hwritten
  | cons hpart hrest ih =>
    cases hpart with
    | letter c =>
      cases food with
      | nil =>
        obtain ⟨rest, -, hparts, -⟩ :=
          of_append (by decide : 'W' ∉ foodEnd) (.cons (.letter c) hrest) hwritten
        exact ⟨written rest, hparts⟩
      | cons d food =>
        obtain ⟨rfl, htail⟩ := List.cons.inj hwritten
        obtain ⟨rest, hparts⟩ := ih (fun hmem => hfood (List.mem_cons_of_mem _ hmem)) htail
        exact ⟨rest, by rw [written_letter, hparts, List.cons_append]⟩
    | label _ =>
      -- the bracket in the beginning of the other label would have to end the food
      have hstart : foodStart <+: food ++ (foodEnd ++ after) := by
        rw [← hwritten, written_hit, foodText, List.append_assoc]
        exact List.prefix_append _ _
      exact absurd hstart (Marked.not_foodStart hfood)

/-- No label comes about. -/
theorem matchFront?_eq_none {c : Char} (h : List.Forall₂ RecasedAs parts others)
    (hnone : foodPattern.matchFront? (c :: written parts) = none) :
    foodPattern.matchFront? (c :: written others) = none := by
  rw [matchFront?_eq_none_iff] at hnone ⊢
  intro food after hfood htext
  have hstart : foodStart = 'W' :: foodStart.tail := rfl
  rw [foodText, hstart, List.cons_append, List.cons_append] at htext
  obtain ⟨rfl, hothers⟩ := List.cons.inj htext
  rw [List.append_assoc, List.append_assoc] at hothers
  obtain ⟨rest, behind, hparts, hbehind, hcased⟩ :=
    of_append (by decide : 'W' ∉ foodStart.tail) h hothers
  obtain ⟨rest', hrest⟩ := of_food hfood hcased hbehind
  refine hnone food rest' hfood ?_
  rw [hparts, hrest, foodText, hstart]
  simp

/-- The labels of the recased text are the recased labels. -/
theorem searched (h : List.Forall₂ RecasedAs parts others) (hparts : foodPattern.Searched parts) :
    foodPattern.Searched others := by
  induction h with
  | nil => exact .nil
  | cons hpart hrest ih =>
    cases hpart with
    | letter c =>
      cases hparts with
      | letter hnone hparts => exact .letter (matchFront?_eq_none hrest hnone) (ih hparts)
    | @label food recased hcase =>
      cases hparts with
      | hit _ hsome hparts =>
        obtain ⟨food', hfood', hcaptures, -⟩ := matchFront?_eq_some_iff.1 hsome
        obtain rfl : food = food' := by simpa using hcaptures
        have hrecased := bracket_not_mem_recased hcase hfood'
        exact .hit (foodText_ne_nil recased)
          (matchFront?_eq_some_iff.2 ⟨recased, hrecased, rfl, rfl⟩) (ih hparts)

theorem markOf_congr {food recased a b : Text} (htake : b.take 2 = a.take 2)
    (hcase : recased.asciiUpper = food.asciiUpper) :
    markOf b [(1, recased)] = markOf a [(1, food)] := by
  have hemoji : foodEmoji? recased = foodEmoji? food := by
    rw [foodEmoji?, Text.lower_congr hcase, foodEmoji?]
  have hends : endsMarked b = endsMarked a := by
    rw [Bool.eq_iff_iff, endsMarked_iff, endsMarked_iff, htake]
  rw [markOf_label, hemoji, hends, markOf_label]

theorem markParts_markParts (h : List.Forall₂ RecasedAs parts others) {a b : Text}
    (htake : b.take 2 = a.take 2) :
    List.Forall₂ RecasedAs (markParts a parts) (markParts b others) := by
  induction h generalizing a b with
  | nil => exact .nil
  | cons hpart hrest ih =>
    cases hpart with
    | letter c =>
      have hcons : (c :: b).take 2 = (c :: a).take 2 := by
        have hone := congrArg (List.take 1) htake
        simpa [List.take_take] using hone
      exact .cons (.letter c) (ih hcons)
    | @label food recased hcase =>
      have hbehind : ((foodText recased).reverse ++ b).take 2 =
          ((foodText food).reverse ++ a).take 2 := by
        rw [take_two_foodText, take_two_foodText]
      have hletters : ∀ mark : Text, List.Forall₂ RecasedAs (mark.map .letter) (mark.map .letter) :=
        fun mark => List.forall₂_same.2 fun part hpart => by
          obtain ⟨c, -, rfl⟩ := List.mem_map.1 hpart
          exact .letter c
      rw [markParts, markParts, markOf_congr htake hcase]
      exact List.rel_append (hletters _) (.cons (.label hcase) (ih hbehind))

end Recased

namespace FoodsRecased

variable {a b : Text}

theorem length_eq (h : FoodsRecased a b) : b.length = a.length := by
  obtain ⟨parts, hcased, rfl⟩ := h
  rw [Recased.length_written hcased, (Pattern.searched_scan consumes_foodPattern a).2]

/-- Marking commutes with recasing. -/
theorem annotateFood (h : FoodsRecased a b) :
    FoodsRecased (annotateFood a) (annotateFood b) := by
  obtain ⟨parts, hcased, rfl⟩ := h
  obtain ⟨hsearched, -⟩ := Pattern.searched_scan consumes_foodPattern a
  have hscan : foodPattern.scan (Found.written parts) = parts :=
    (Pattern.scan_eq_iff consumes_foodPattern).2 ⟨Recased.searched hcased hsearched, rfl⟩
  refine ⟨markParts [] parts, ?_, ?_⟩
  · rw [scan_annotateFood]
    exact Recased.markParts_markParts hcased rfl
  · rw [EventText.annotateFood, hscan, written_markParts]

end FoodsRecased

/-- A marked text is not changed by marking it again, nor is any text that differs from it in the case
of its foods. -/
theorem annotateFood_recased (text : Text) :
    annotateFood (annotateFood text) = annotateFood text ∧
      ∀ recased, FoodsRecased (annotateFood text) recased → annotateFood recased = recased := by
  refine ⟨annotateFood_annotateFood text, ?_⟩
  intro recased h
  have hlength : (annotateFood recased).length = recased.length := by
    have hmarked := h.annotateFood.length_eq
    rw [annotateFood_annotateFood] at hmarked
    rw [hmarked, h.length_eq]
  exact ((marked_annotateFood recased).sublist.eq_of_length hlength.symm).symm

/-- The food has what begins a label in it, and a sigma that ends a word. -/
theorem annotateFood_recased_capitals :
    let text := "What to eat: <b>What to eat: Sushi Σ</b>What to eat: <b>Soup</b>".toList
    let marked := "🍣 What to eat: <b>What to eat: Sushi Σ</b>What to eat: <b>Soup</b>".toList
    let recased := "🍣 What to eat: <b>wHAT to eat: SUSHI Σ</b>What to eat: <b>sOUP</b>".toList
    annotateFood text = marked ∧ FoodsRecased (annotateFood text) recased ∧
      annotateFood recased = recased := by
  intro text marked recased
  let parts (food other : Text) : List Found := [.letter '🍣', .letter ' ',
    .hit (foodText food) [(1, food)], .hit (foodText other) [(1, other)]]
  have hmarked : annotateFood text = marked := by decide +kernel
  have hparts : foodPattern.Searched (parts "What to eat: Sushi Σ".toList "Soup".toList) :=
    .letter (by decide +kernel) <| .letter (by decide +kernel) <|
      .hit (by decide) (by decide +kernel) <| .hit (by decide) (by decide +kernel) .nil
  have hwritten : Found.written (parts "What to eat: Sushi Σ".toList "Soup".toList) = marked := by
    decide +kernel
  have hcased : FoodsRecased (annotateFood text) recased := by
    refine ⟨parts "wHAT to eat: SUSHI Σ".toList "sOUP".toList, ?_, by decide +kernel⟩
    rw [hmarked, (Pattern.scan_eq_iff consumes_foodPattern).2 ⟨hparts, hwritten⟩]
    exact .cons (.letter _) <| .cons (.letter _) <|
      .cons (.label (by decide)) <| .cons (.label (by decide)) .nil
  exact ⟨hmarked, hcased, (annotateFood_recased text).2 recased hcased⟩

end EventText
