import EventText.Yaml.Quoted

/-!
Tags and the directives that shorten them. A tag is only checked and told apart by its handle; what
it asks for is up to the reader of the scalar.
-/

namespace EventText.Yaml

/-- Characters of the address in a tag. In a verbatim tag and in a directive the comma and square
brackets belong to it. -/
def isAddressChar (verbatim : Bool) (c : Char) : Bool :=
  isNameChar c || ";/?:@&=+$.!~*'()".toList.contains c || (verbatim && [',', '[', ']'].contains c)

def bytesAfter? (byte : Nat) : Option Nat :=
  if byte < 0x80 then some 0
  else if 0xC0 ≤ byte && byte < 0xE0 then some 1
  else if 0xE0 ≤ byte && byte < 0xF0 then some 2
  else if 0xF0 ≤ byte && byte < 0xF8 then some 3
  else none

/-- The number of bytes still to come, after `byte` came where `pending` were to come. -/
def pendingAfter? (pending byte : Nat) : Option Nat :=
  if pending = 0 then bytesAfter? byte
  else if 0x80 ≤ byte && byte < 0xC0 then some (pending - 1)
  else none

/-- The address at the front of the text, as it is written, and the text after it. Bytes are written
with a percent sign, and a character is written in full. -/
def readAddress? (verbatim : Bool) (pending : Nat) : Text → Option (Text × Text)
  | '%' :: high :: low :: rest => do
    let byte ← hexValue? [high, low]
    let pending ← pendingAfter? pending byte
    let (address, rest) ← readAddress? verbatim pending rest
    return ('%' :: high :: low :: address, rest)
  | c :: rest =>
    if c = '%' || pending ≠ 0 then none
    else if isAddressChar verbatim c then
      (readAddress? verbatim 0 rest).map fun (address, rest) => (c :: address, rest)
    else
      some ([], c :: rest)
  | [] => if pending = 0 then some ([], []) else none

/-- A handle: an exclamation mark, and perhaps a name with a second one behind it. The second part
of the result tells whether that is there. -/
def readHandle? : Text → Option (Text × Bool × Text)
  | '!' :: rest =>
    let name := rest.takeWhile isNameChar
    match rest.dropWhile isNameChar with
    | '!' :: rest => some ('!' :: name ++ ['!'], true, rest)
    | rest => some ('!' :: name, false, rest)
  | _ => none

/-- A tag at the front of the text: the handle that it uses, if it uses one, and the text after it.
A verbatim tag and the exclamation mark alone use none. -/
def readTagBody? : Text → Option (Option Text × Text)
  | '!' :: '<' :: rest => do
    let (address, rest) ← readAddress? true 0 rest
    if address.isEmpty then none
    match rest with
    | '>' :: rest => return (none, rest)
    | _ => none
  | text => do
    let (handle, closed, rest) ← readHandle? text
    let (address, rest) ← readAddress? false 0 rest
    if closed then
      if address.isEmpty then none
      return (some handle, rest)
    else if handle.length = 1 && address.isEmpty then
      return (none, rest)
    else
      return (some ['!'], rest)

/-- A tag with white space behind it, or in a flow collection a comma. -/
def readTag? (flow : Bool) (text : Text) : Option (Option Text × Text) := do
  let (handle, rest) ← readTagBody? text
  if atWordEnd rest || (flow && rest.head? == some ',') then
    return (handle, rest)
  else
    none

inductive Directive where
  | version (major minor : Nat)
  | handle (name : Text)
deriving DecidableEq

def readVersionNumber? (text : Text) : Option (Nat × Text) :=
  let digits := text.takeWhile Char.isDigit
  if digits.isEmpty || 9 < digits.length then none
  else
    some (digits.foldl (fun n c => n * 10 + (c.toNat - '0'.toNat)) 0, text.dropWhile Char.isDigit)

def readVersion? (text : Text) : Option (Directive × Text) := do
  let (major, rest) ← readVersionNumber? (text.dropWhile isGap)
  match rest with
  | '.' :: rest =>
    let (minor, rest) ← readVersionNumber? rest
    return (.version major minor, rest)
  | _ => none

def readTagDirective? (text : Text) : Option (Directive × Text) := do
  let (handle, closed, rest) ← readHandle? (text.dropWhile isGap)
  if !closed && handle.length ≠ 1 then none
  if !rest.head?.any isGap then none
  let (address, rest) ← readAddress? true 0 (rest.dropWhile isGap)
  if address.isEmpty || !atWordEnd rest then none
  return (.handle handle, rest)

def readDirective? (text : Text) : Option (Directive × Text) := do
  let name := text.takeWhile isNameChar
  let rest := text.dropWhile isNameChar
  if !atWordEnd rest then none
  let (directive, rest) ←
    if name == "YAML".toList then readVersion? rest
    else if name == "TAG".toList then readTagDirective? rest
    else none
  return (directive, ← dropLineEnd? rest)

end EventText.Yaml
