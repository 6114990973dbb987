import EventText.Yaml.Block
import EventText.Yaml.Plain
import EventText.Yaml.Tag

/-!
Tokens: the pieces of a stream with the structure that indentation gives made explicit. A key of a
mapping may turn out to be one only at the colon behind it; `Scan` remembers where such a key would
have begun, and puts the tokens in there.
-/

namespace EventText.Yaml

inductive Style where
  | plain
  | quoted
  | block
deriving DecidableEq

inductive Token where
  | directive (directive : Directive)
  | documentStart
  | documentEnd
  | blockSequence
  | blockMapping
  | blockEnd
  | openSequence
  | closeSequence
  | openMapping
  | closeMapping
  /-- The hyphen before an item. -/
  | item
  | comma
  | key
  | value
  | alias (name : Text)
  | anchor (name : Text)
  /-- A tag by its handle. -/
  | tag (handle : Option Text)
  | scalar (style : Style) (text : Text)
deriving DecidableEq

structure Place where
  rest : Text
  line : Nat := 0
  column : Nat := 0

namespace Place

def walk (line column : Nat) : Nat → Text → Place
  | count + 1, c :: rest =>
    if isBreak c then walk (line + 1) 0 count rest else walk line (column + 1) count rest
  | _, rest => ⟨rest, line, column⟩

def goto (p : Place) (rest : Text) : Place :=
  walk p.line p.column (p.rest.length - rest.length) p.rest

end Place

/-- The beginning of a node that will be a key if a colon follows. -/
structure PossibleKey where
  /-- How many tokens came before it. -/
  position : Nat
  line : Nat
  column : Nat
  /-- The place can hold nothing but a key. -/
  required : Bool

structure Scan where
  place : Place
  /-- The tokens so far, newest first. -/
  tokens : List Token := []
  /-- The columns of the open block collections, innermost first. -/
  indents : List Nat := []
  /-- A key, or an item of a block collection, may begin here. -/
  keyAllowed : Bool := true
  key? : Option PossibleKey := none
  /-- What stood in `key?` before each open flow collection, innermost first. -/
  outerKeys : List (Option PossibleKey) := []

namespace Scan

def inFlow (s : Scan) : Bool :=
  !s.outerKeys.isEmpty

def emit (s : Scan) (token : Token) : Scan :=
  { s with tokens := token :: s.tokens }

def goto (s : Scan) (rest : Text) : Scan :=
  { s with place := s.place.goto rest }

def skip (s : Scan) : Scan :=
  s.goto s.place.rest.tail

def allowKey (s : Scan) (allowed : Bool) : Scan :=
  { s with keyAllowed := allowed }

def isDeeper (s : Scan) (column : Nat) : Bool :=
  s.indents.head?.all (· < column)

/-- Opens a block collection at the column unless it lies in one, or in a flow collection. The token
goes in where `position` tokens had come. -/
def openBlock (s : Scan) (column position : Nat) (token : Token) : Scan :=
  if !s.inFlow && s.isDeeper column then
    { s with
      indents := column :: s.indents
      tokens := s.tokens.insertIdx (s.tokens.length - position) token }
  else
    s

def openAt (column : Nat) (indents : List Nat) : List Nat :=
  indents.dropWhile (column < ·)

/-- Closes block collections until the innermost are those in `open`. -/
def closeTo (s : Scan) (indents : List Nat) : Scan :=
  { s with
    indents
    tokens := List.replicate (s.indents.length - indents.length) .blockEnd ++ s.tokens }

def closeDeeper (s : Scan) : Scan :=
  if s.inFlow then s else s.closeTo (openAt s.place.column s.indents)

def closeAll (s : Scan) : Scan :=
  if s.inFlow then s else s.closeTo []

/-- Forgets the possible key; one that was required is missing its colon. -/
def dropKey? (s : Scan) : Option Scan :=
  if s.key?.any (·.required) then none else some { s with key? := none }

def noteKey? (s : Scan) : Option Scan :=
  if s.keyAllowed then do
    let s ← s.dropKey?
    return { s with
      key? := some {
        position := s.tokens.length
        line := s.place.line
        column := s.place.column
        required := !s.inFlow && s.indents.head? == some s.place.column } }
  else
    some s

/-- A key stays on one line and within 1024 characters. -/
def isStale (place : Place) (key : PossibleKey) : Bool :=
  key.line < place.line || key.column + 1024 < place.column

def refresh? (place : Place) : Option PossibleKey → Option (Option PossibleKey)
  | none => some none
  | some key =>
    if !isStale place key then some (some key)
    else if key.required then none
    else some none

def refreshKeys? (s : Scan) : Option Scan := do
  let key? ← refresh? s.place s.key?
  let outerKeys ← s.outerKeys.mapM (refresh? s.place)
  return { s with key?, outerKeys }

/-- The text behind white space and comments, and whether a key may begin there. A tab does not
count as white space where a key may begin, except in flow collections. -/
def skipWhite (flow allowed comment : Bool) (column : Nat) : Text → Text × Bool
  | [] => ([], allowed)
  | c :: rest =>
    if isBreak c then
      skipWhite flow (allowed || !flow) false 0 rest
    else if comment || c == '#' then
      skipWhite flow allowed true (column + 1) rest
    else if c == ' ' || (c == '\t' && (flow || !allowed)) || (c == orderMark && column == 0) then
      skipWhite flow allowed false (column + 1) rest
    else
      (c :: rest, allowed)

def advance? (s : Scan) : Option Scan := do
  let (rest, allowed) := skipWhite s.inFlow s.keyAllowed false s.place.column s.place.rest
  let s ← ((s.goto rest).allowKey allowed).refreshKeys?
  return s.closeDeeper

def scanDirective? (s : Scan) : Option Scan := do
  let s ← s.closeAll.dropKey?
  let (directive, rest) ← readDirective? s.place.rest.tail
  return ((s.goto rest).emit (.directive directive)).allowKey false

def scanMarker? (s : Scan) (token : Token) : Option Scan := do
  let s ← s.closeAll.dropKey?
  return ((s.goto (s.place.rest.drop 3)).emit token).allowKey false

def openFlow? (s : Scan) (token : Token) : Option Scan := do
  let s ← s.noteKey?
  return { s.skip.emit token with key? := none, outerKeys := s.key? :: s.outerKeys, keyAllowed := true }

def closeFlow? (s : Scan) (token : Token) : Option Scan := do
  let s ← s.dropKey?
  let s := (s.skip.emit token).allowKey false
  return match s.outerKeys with
    | [] => s
    | key? :: outerKeys => { s with key?, outerKeys }

def scanComma? (s : Scan) : Option Scan := do
  let s ← s.dropKey?
  return (s.skip.emit .comma).allowKey true

/-- Opens a block collection at the place for an item, a key or a value, which must be allowed. -/
def openHere? (s : Scan) (token : Token) : Option Scan :=
  if s.inFlow then some s
  else if s.keyAllowed then some (s.openBlock s.place.column s.tokens.length token)
  else none

def scanItem? (s : Scan) : Option Scan := do
  let s ← s.openHere? .blockSequence
  let s ← s.dropKey?
  return (s.skip.emit .item).allowKey true

def scanKey? (s : Scan) : Option Scan := do
  let s ← s.openHere? .blockMapping
  let s ← s.dropKey?
  return (s.skip.emit .key).allowKey !s.inFlow

/-- The colon before a value. What might have been a key is one now. -/
def scanValue? (s : Scan) : Option Scan :=
  match s.key? with
  | some key =>
    let s := { s with
      key? := none
      tokens := s.tokens.insertIdx (s.tokens.length - key.position) .key }
    let s := s.openBlock key.column key.position .blockMapping
    some ((s.skip.emit .value).allowKey false)
  | none => do
    let s ← s.openHere? .blockMapping
    return (s.skip.emit .value).allowKey !s.inFlow

def scanName? (s : Scan) (token : Text → Token) : Option Scan := do
  let s ← s.noteKey?
  let name := s.place.rest.tail.takeWhile isNameChar
  let rest := s.place.rest.tail.dropWhile isNameChar
  if name.isEmpty then none
  if !(atWordEnd rest || startsWithAny ['?', ':', ',', ']', '}', '%', '@', '\x60'] rest) then none
  return ((s.goto rest).emit (token name)).allowKey false

def scanTag? (s : Scan) : Option Scan := do
  let s ← s.noteKey?
  let (handle, rest) ← readTag? s.inFlow s.place.rest
  return ((s.goto rest).emit (.tag handle)).allowKey false

def scanBlock? (s : Scan) (folded : Bool) : Option Scan := do
  let s ← s.dropKey?
  let (text, rest) ← readBlock? folded s.indents.head? s.place.rest.tail
  return ((s.goto rest).emit (.scalar .block text)).allowKey true

def scanQuoted? (s : Scan) (read? : Text → Option (Text × Text)) : Option Scan := do
  let s ← s.noteKey?
  let (text, rest) ← read? s.place.rest.tail
  return ((s.goto rest).emit (.scalar .quoted text)).allowKey false

/-- A plain scalar. Behind the end of a line a key may begin. -/
def scanPlain? (s : Scan) : Option Scan := do
  let s ← s.noteKey?
  let limit := s.indents.head?.elim 0 (· + 1)
  let (text, rest, ended) ← readPlain? s.inFlow limit s.place.rest
  return ((s.goto rest).emit (.scalar .plain text)).allowKey ended

/-- Characters that a plain scalar cannot begin with, unless what follows allows it. -/
def isIndicator (c : Char) : Bool :=
  "-?:,[]\x7b\x7d#&*!|>'\"%@\x60".toList.contains c

def startsPlain (flow : Bool) (c : Char) (rest : Text) : Bool :=
  !(isWhite c || isIndicator c) ||
    (c == '-' && !rest.head?.any isGap) ||
    (!flow && (c == '?' || c == ':') && !atWordEnd rest)

def scanToken? (s : Scan) (c : Char) (rest : Text) : Option Scan :=
  if s.place.column = 0 && c = '%' then s.scanDirective?
  else if s.place.column = 0 && isMarker '-' (c :: rest) then s.scanMarker? .documentStart
  else if s.place.column = 0 && isMarker '.' (c :: rest) then s.scanMarker? .documentEnd
  else if c = '[' then s.openFlow? .openSequence
  else if c = '{' then s.openFlow? .openMapping
  else if c = ']' then s.closeFlow? .closeSequence
  else if c = '}' then s.closeFlow? .closeMapping
  else if c = ',' then s.scanComma?
  else if c = '-' && atWordEnd rest then s.scanItem?
  else if c = '?' && (s.inFlow || atWordEnd rest) then s.scanKey?
  else if c = ':' && (s.inFlow || atWordEnd rest) then s.scanValue?
  else if c = '*' then s.scanName? .alias
  else if c = '&' then s.scanName? .anchor
  else if c = '!' then s.scanTag?
  else if c = '|' && !s.inFlow then s.scanBlock? false
  else if c = '>' && !s.inFlow then s.scanBlock? true
  else if c = '\'' then s.scanQuoted? readSingle?
  else if c = '"' then s.scanQuoted? readDouble?
  else if startsPlain s.inFlow c rest then s.scanPlain?
  else none

/-- The tokens of the rest of the stream. Each of them takes a character at least. -/
def finish? : Nat → Scan → Option (List Token)
  | 0, _ => none
  | fuel + 1, s => do
    let s ← s.advance?
    match s.place.rest with
    | [] => return (← s.closeAll.dropKey?).tokens.reverse
    | c :: rest => finish? fuel (← s.scanToken? c rest)

end Scan

def tokens? (text : Text) : Option (List Token) := do
  let stream ← stream? text
  Scan.finish? (stream.length + 1) { place := { rest := stream } }

end EventText.Yaml
