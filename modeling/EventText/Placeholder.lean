import EventText.Text.Basic

/-!
Placeholders: `[key]` and `[key:payload]`. Keys are ASCII letters, digits and the low line, and
compare without regard to case; a payload runs to the first closing bracket and stays on its line.
-/

namespace EventText

def isKeyChar (c : Char) : Bool :=
  c.isAlphanum || c == '_'

def isPayloadChar (c : Char) : Bool :=
  c != ']' && c != '\n'

/-- A well-formed key: not empty, key characters only. -/
def isValidKey (key : Text) : Bool :=
  !key.isEmpty && key.all isKeyChar

structure Placeholder where
  key : Text
  /-- The text between colon and bracket; `none` when there is no colon. -/
  payload : Option Text
deriving DecidableEq

namespace Placeholder

def written (p : Placeholder) : Text :=
  match p.payload with
  | none => '[' :: p.key ++ [']']
  | some payload => '[' :: p.key ++ ':' :: payload ++ [']']

/-- The placeholder has this key, in any case. -/
def hasKey (p : Placeholder) (key : Text) : Bool :=
  p.key.sameAscii key

/-- The placeholder is a key alone. -/
def isBare (p : Placeholder) : Bool :=
  p.payload.isNone

end Placeholder

end EventText
