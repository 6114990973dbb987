import EventText.Text.Basic

/-!
Patterns over texts, with groups. A pattern is tried at the front of a text: runs take as much as
they can, optional parts are tried first with and then without, and the first way that lets the
whole pattern succeed is the match. `Pattern.scan` cuts a text at its successive leftmost matches.
-/

namespace EventText

inductive Pattern where
  /-- Matches the empty text. -/
  | nothing
  /-- One character of a class. -/
  | char (accepts : Char → Bool)
  /-- As many characters of a class as possible, also none. -/
  | run (accepts : Char → Bool)
  | seq (first second : Pattern)
  | optional (inner : Pattern)
  /-- The inner pattern; what it took is kept under the number. -/
  | group (number : Nat) (inner : Pattern)

/-- What the groups of a match took, by number. A group that took no part is not listed. -/
abbrev Captures := List (Nat × Text)

namespace Pattern

def literal : Text → Pattern
  | [] => nothing
  | c :: rest => seq (char (· == c)) (literal rest)

def many (accepts : Char → Bool) : Pattern :=
  seq (char accepts) (run accepts)

/-- A run of the class followed by `next`, longest run first. -/
def attemptRun (accepts : Char → Bool) (next : Text → Option α) : Text → Option α
  | [] => next []
  | c :: rest =>
    if accepts c then
      match attemptRun accepts next rest with
      | some found => some found
      | none => next (c :: rest)
    else
      next (c :: rest)

/-- The pattern followed by `next`: the first way, in order of preference, in which both succeed. -/
def attempt : Pattern → (Captures → Text → Option α) → Captures → Text → Option α
  | nothing, next, captures, text => next captures text
  | char _, _, _, [] => none
  | char accepts, next, captures, c :: rest => if accepts c then next captures rest else none
  | run accepts, next, captures, text => attemptRun accepts (next captures) text
  | seq first second, next, captures, text => first.attempt (second.attempt next) captures text
  | optional inner, next, captures, text =>
    match inner.attempt next captures text with
    | some found => some found
    | none => next captures text
  | group number inner, next, captures, text =>
    inner.attempt
      (fun inside rest => next (inside ++ [(number, text.take (text.length - rest.length))]) rest)
      captures text

def matchFront? (pattern : Pattern) (text : Text) : Option (Captures × Text) :=
  pattern.attempt (fun captures rest => some (captures, rest)) [] text

end Pattern

inductive Found where
  /-- A character outside all matches. -/
  | letter (c : Char)
  | hit (text : Text) (captures : Captures)

def Found.text : Found → Text
  | letter c => [c]
  | hit text _ => text

def Captures.get? (captures : Captures) (number : Nat) : Option Text :=
  captures.lookup number

/-- The text cut at its successive matches: at each position the first match there is taken, and
the search goes on behind it; where there is none it goes on one character later. -/
def Pattern.scan (pattern : Pattern) : Text → List Found
  | [] => []
  | c :: rest =>
    match pattern.matchFront? (c :: rest) with
    | some (captures, after) =>
      if _shorter : after.length < (c :: rest).length then
        .hit ((c :: rest).take ((c :: rest).length - after.length)) captures :: pattern.scan after
      else
        .letter c :: pattern.scan rest
    | none => .letter c :: pattern.scan rest
termination_by text => text.length
decreasing_by
  · exact _shorter
  · exact Nat.lt_succ_self rest.length
  · exact Nat.lt_succ_self rest.length

end EventText
