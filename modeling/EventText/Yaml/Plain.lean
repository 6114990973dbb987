import EventText.Yaml.Folding

/-!
Plain scalars: words without quotes. A word ends before a colon with white space behind it, and in
flow collections before their punctuation. The scalar goes on behind a gap as long as a word follows
that is indented far enough.
-/

namespace EventText.Yaml

def isFlowMark (c : Char) : Bool :=
  [',', '[', ']', '{', '}'].contains c

def startsWithAny (cs : List Char) : Text → Bool
  | [] => false
  | c :: _ => cs.contains c

/-- A colon that must not stand inside a flow collection, as it is glued to what follows. -/
def isGluedColon (flow : Bool) : Text → Bool
  | ':' :: rest => flow && startsWithAny [',', '?', '[', ']', '{', '}'] rest
  | _ => false

def endsWord (flow : Bool) : Text → Bool
  | [] => true
  | c :: rest => isWhite c || (c == ':' && atWordEnd rest) || (flow && isFlowMark c)

def cutWord (flow : Bool) : Text → Text × Text
  | [] => ([], [])
  | c :: rest =>
    if endsWord flow (c :: rest) || isGluedColon flow (c :: rest) then
      ([], c :: rest)
    else
      (c :: (cutWord flow rest).1, (cutWord flow rest).2)

theorem length_cutWord (flow : Bool) (text : Text) :
    (cutWord flow text).2.length ≤ text.length := by
  induction text with
  | nil => simp [cutWord]
  | cons c rest ih =>
    unfold cutWord
    split
    · exact Nat.le_refl _
    · exact Nat.le_succ_of_le ih

def columnAfter (gap : Text) : Nat :=
  (gap.reverse.takeWhile (!isBreak ·)).length

/-- A tab stands to the left of column `limit` on a line that begins in the gap. The column is
`none` before the first break. -/
def hasEarlyTab (limit : Nat) (column : Option Nat) : Text → Bool
  | [] => false
  | c :: rest =>
    if isBreak c then
      hasEarlyTab limit (some 0) rest
    else
      (c == '\t' && column.any (· < limit)) || hasEarlyTab limit (column.map (· + 1)) rest

def continues (flow : Bool) (limit : Nat) (gap after : Text) : Bool :=
  after.head? != some '#' && !endsWord flow after &&
    (!gap.any isBreak ||
      ((flow || limit ≤ columnAfter gap) && !(columnAfter gap = 0 && atDocumentMarker after)))

theorem length_dropGap (word after : Text) (p : Char → Bool)
    (h : (after.takeWhile p).isEmpty = false) (hle : after.length ≤ word.length) :
    (after.dropWhile p).length < word.length := by
  have split := congrArg List.length (List.takeWhile_append_dropWhile (p := p) (l := after))
  rw [List.length_append] at split
  have : (after.takeWhile p).length ≠ 0 := by
    intro hzero
    rw [List.length_eq_zero_iff.1 hzero] at h
    cases h
  omega

/-- The value of the plain scalar at the front of the text, the text after it and the white space
behind it, and whether a line ended in that white space. Further lines have to be indented by
`limit` columns at least. -/
def readPlain? (flow : Bool) (limit : Nat) (text : Text) : Option (Text × Text × Bool) :=
  let word := (cutWord flow text).1
  let gap := (cutWord flow text).2.takeWhile isWhite
  let after := (cutWord flow text).2.dropWhile isWhite
  if _ends : gap.isEmpty then
    if isGluedColon flow after then none else some (word, after, false)
  else if hasEarlyTab limit none gap then
    none
  else if continues flow limit gap after then
    (readPlain? flow limit after).map fun (more, rest, ended) =>
      (word ++ foldGap gap ++ more, rest, ended)
  else
    some (word, after, gap.any isBreak)
termination_by text.length
decreasing_by
  exact length_dropGap text _ isWhite (Bool.eq_false_iff.2 _ends) (length_cutWord flow text)

end EventText.Yaml
