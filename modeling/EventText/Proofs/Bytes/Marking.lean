import EventText.Proofs.Bytes.Slice
import EventText.Proofs.Food.Marking

/-! Marking by bytes. The text is cut in front of each label that gets a mark, and what lies behind the
last cut is kept for the next one. No cut fails, and the result is the marked text
(`annotateFoodAt?_eq`). -/

namespace EventText

/-- The matches of a search with the bytes at which they begin, the first found part standing at
`start`. -/
def Found.hitsFrom (start : Nat) : List Found → List (Nat × Captures)
  | [] => []
  | .letter c :: rest => hitsFrom (start + c.utf8Size) rest
  | .hit text captures :: rest => (start, captures) :: hitsFrom (start + text.utf8Length) rest

/-- Marks labels, where `done` is the result up to byte `cursor` of the text. -/
def markAt? (text : Text) (cursor : Nat) (done : Text) : List (Nat × Captures) → Option Text
  | [] => (text.dropBytes? cursor).map (done ++ ·)
  | (start, captures) :: rest =>
    match foodEmoji? ((captures.get? 1).getD []) with
    | none => markAt? text cursor done rest
    | some emoji => do
      let before ← text.slice? 0 start
      if foodEmojis.any fun entry => (foodMark entry.2).isSuffixOf before then
        markAt? text cursor done rest
      else
        markAt? text start (done ++ (← text.slice? cursor start) ++ foodMark emoji) rest

def annotateFoodAt? (text : Text) : Option Text :=
  markAt? text 0 [] (Found.hitsFrom 0 (foodPattern.scan text))

/-- The text is `kept`, which lies before the cursor, then `pending`, which is not yet written, and
then the parts still to come. -/
theorem markAt?_hitsFrom (kept pending done : Text) (parts : List Found) :
    markAt? (kept ++ pending ++ Found.written parts) kept.utf8Length done
        (Found.hitsFrom (kept ++ pending).utf8Length parts) =
      some (done ++ pending ++ markFrom (kept ++ pending).reverse parts) := by
  induction parts generalizing kept pending done with
  | nil =>
    rw [Found.written_nil, List.append_nil, Found.hitsFrom, markAt?, Text.dropBytes?_append,
      markFrom, List.append_nil]
    rfl
  | cons part rest ih =>
    cases part with
    | letter c =>
      have hrest := ih kept (pending ++ [c]) done
      rw [← List.append_assoc, Text.utf8Length_append] at hrest
      simpa [Found.hitsFrom, markFrom] using hrest
    | hit label captures =>
      -- the label stays pending when it gets no mark
      have hskip := ih kept (pending ++ label) done
      have hmark (mark : Text) := ih (kept ++ pending) label (done ++ pending ++ mark)
      rw [← List.append_assoc, Text.utf8Length_append] at hskip
      simp only [Text.utf8Length_append _ label] at hmark
      rw [Found.hitsFrom, Found.written_hit, markAt?, markFrom]
      have hbefore : Text.slice? (kept ++ pending ++ (label ++ Found.written rest)) 0
          (kept ++ pending).utf8Length = some (kept ++ pending) :=
        Text.slice?_eq_some_iff.2 ⟨[], _, rfl, rfl, (Nat.zero_add _).symm⟩
      have hgap : Text.slice? (kept ++ pending ++ (label ++ Found.written rest)) kept.utf8Length
          (kept ++ pending).utf8Length = some pending :=
        Text.slice?_eq_some_iff.2 ⟨kept, _, rfl, rfl, Text.utf8Length_append _ _⟩
      cases hemoji : foodEmoji? ((captures.get? 1).getD []) with
      | none =>
        have hnone : markOf (kept ++ pending).reverse captures = [] := by simp only [markOf, hemoji]
        rw [hnone]
        simpa using hskip
      | some emoji =>
        have hends : (foodEmojis.any fun entry => (foodMark entry.2).isSuffixOf (kept ++ pending)) =
            endsMarked (kept ++ pending).reverse := rfl
        have hsome : markOf (kept ++ pending).reverse captures =
            if endsMarked (kept ++ pending).reverse then [] else foodMark emoji := by
          simp only [markOf, hemoji]
        simp only [hbefore, hgap, hends, hsome, Option.bind_eq_bind, Option.bind_some]
        split
        · simpa using hskip
        · simpa using hmark (foodMark emoji)

/-- No cut fails while labels are marked. -/
theorem annotateFoodAt?_eq (text : Text) : annotateFoodAt? text = some (annotateFood text) := by
  have hall := markAt?_hitsFrom [] [] [] (foodPattern.scan text)
  rwa [(Pattern.searched_scan consumes_foodPattern text).2] at hall

end EventText
