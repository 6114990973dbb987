import EventText.Pattern
import EventText.Template.Piece

/-!
Two ways to cut a text into pieces. One searches for the pattern of a placeholder, the other walks
from bracket to bracket and reads a placeholder behind each. They find the same placeholders.
-/

namespace EventText

def placeholderPattern : Pattern :=
  .seq (.char (· == '[')) <|
    .seq (.group 1 (.many isKeyChar)) <|
      .seq (.optional (.seq (.char (· == ':')) (.group 2 (.run isPayloadChar)))) <|
        .char (· == ']')

/-- A match of the pattern is the placeholder of its two groups. -/
def Found.piece : Found → Piece
  | letter c => .letter c
  | hit _ captures => .token ⟨(captures.get? 1).getD [], captures.get? 2⟩

/-- The placeholder behind an opening bracket, and the text after it: a key up to the first
character that is none, then a bracket, or a colon and a payload up to a bracket on its line. -/
def afterBracket? (text : Text) : Option (Placeholder × Text) :=
  if (text.takeWhile isKeyChar).isEmpty then
    none
  else
    match text.dropWhile isKeyChar with
    | ']' :: after => some (⟨text.takeWhile isKeyChar, none⟩, after)
    | ':' :: body =>
      match body.dropWhile isPayloadChar with
      | ']' :: after => some (⟨text.takeWhile isKeyChar, some (body.takeWhile isPayloadChar)⟩, after)
      | _ => none
    | _ => none

theorem length_dropWhile_le (p : Char → Bool) (text : Text) :
    (text.dropWhile p).length ≤ text.length :=
  (List.dropWhile_sublist p).length_le

/-- Reading a placeholder uses the text up. -/
theorem length_afterBracket? {text after : Text} {p : Placeholder}
    (h : afterBracket? text = some (p, after)) : after.length < text.length := by
  have hkey := length_dropWhile_le isKeyChar text
  unfold afterBracket? at h
  split at h
  · cases h
  · split at h
    · next rest hrest =>
      obtain ⟨-, rfl⟩ := Prod.mk.inj (Option.some.inj h)
      rw [hrest] at hkey
      simp only [List.length_cons] at hkey
      omega
    · next body hbody =>
      split at h
      · next rest hrest =>
        obtain ⟨-, rfl⟩ := Prod.mk.inj (Option.some.inj h)
        have hpayload := length_dropWhile_le isPayloadChar body
        rw [hrest] at hpayload
        rw [hbody] at hkey
        simp only [List.length_cons] at hkey hpayload
        omega
      · cases h
    · cases h

/-- The pieces found by walking from bracket to bracket. A bracket without a placeholder behind it
is a character like any other, and the walk goes on right after it. -/
def bracketPieces : Text → List Piece
  | [] => []
  | c :: rest =>
    if c = '[' then
      match _found : afterBracket? rest with
      | some (p, after) => .token p :: bracketPieces after
      | none => .letter c :: bracketPieces rest
    else
      .letter c :: bracketPieces rest
termination_by text => text.length
decreasing_by
  · have := length_afterBracket? _found
    simp only [List.length_cons]
    omega
  · simp
  · simp

def patternPieces (text : Text) : List Piece :=
  (placeholderPattern.scan text).map Found.piece

inductive Grammar where
  | pattern
  | brackets
deriving DecidableEq, Inhabited

namespace Grammar

def pieces : Grammar → Text → List Piece
  | pattern, text => patternPieces text
  | brackets, text => bracketPieces text

def unresolved (grammar : Grammar) (text : Text) : List Text :=
  (Template.placeholders (grammar.pieces text)).map Placeholder.written

end Grammar

end EventText
