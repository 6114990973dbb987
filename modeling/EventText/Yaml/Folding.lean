import EventText.Yaml.Characters

/-!
Folding: how the white space within a scalar that runs over several lines is read. Blanks beside a
line break do not count; a single line feed is read as a space, and of several breaks the first line
feed is dropped.
-/

namespace EventText.Yaml

def foldBreaks : Text → Text
  | ['\n'] => [' ']
  | '\n' :: more => more
  | breaks => breaks

def foldGap (gap : Text) : Text :=
  if gap.any isBreak then foldBreaks (gap.filter isBreak) else gap

theorem length_dropWhile_lt (p : Char → Bool) (c : Char) (text : Text) :
    (text.dropWhile p).length < (c :: text).length :=
  Nat.lt_succ_of_le (List.dropWhile_sublist p).length_le

def fold : Text → Text
  | [] => []
  | c :: rest =>
    if isBreak c then
      foldBreaks (c :: (rest.takeWhile isWhite).filter isBreak) ++ fold (rest.dropWhile isWhite)
    else if isGap c && (rest.takeWhile isWhite).any isBreak then
      fold rest
    else
      c :: fold rest
termination_by text => text.length
decreasing_by
  · exact length_dropWhile_lt isWhite c rest
  · simp
  · simp

end EventText.Yaml
