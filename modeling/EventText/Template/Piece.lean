import EventText.Placeholder

/-!
Templates as lists of pieces: characters that stand for themselves, and placeholders. A grammar
turns a text into pieces whose written forms, one after the other, are the text again; rewriting,
listing and locating placeholders work on the pieces.
-/

namespace EventText

inductive Piece where
  | letter (c : Char)
  | token (p : Placeholder)
deriving DecidableEq

def Piece.written : Piece → Text
  | letter c => [c]
  | token p => p.written

def Piece.placeholder? : Piece → Option Placeholder
  | letter _ => none
  | token p => some p

namespace Template

def written (pieces : List Piece) : Text :=
  pieces.flatMap Piece.written

def placeholders (pieces : List Piece) : List Placeholder :=
  pieces.filterMap Piece.placeholder?

/-- Offers each placeholder once, from left to right. An answer takes the place of the placeholder,
no answer leaves it as it stands; answers are not looked at again. -/
def rewriteM [Monad m] (offer : Placeholder → m (Option Text)) : List Piece → m Text
  | [] => pure []
  | .letter c :: rest => do
    let after ← rewriteM offer rest
    return c :: after
  | .token p :: rest => do
    let answer ← offer p
    let after ← rewriteM offer rest
    return answer.getD p.written ++ after

def rewrite (offer : Placeholder → Option Text) (pieces : List Piece) : Text :=
  Id.run (rewriteM (fun p => pure (offer p)) pieces)

/-- The placeholders with the bytes at which each begins and ends, the first piece standing at
`start`. -/
def locatedFrom (start : Nat) : List Piece → List (Nat × Nat × Placeholder)
  | [] => []
  | .letter c :: rest => locatedFrom (start + c.utf8Size) rest
  | .token p :: rest =>
    (start, start + p.written.utf8Length, p) :: locatedFrom (start + p.written.utf8Length) rest

def located (pieces : List Piece) : List (Nat × Nat × Placeholder) :=
  locatedFrom 0 pieces

end Template

end EventText
