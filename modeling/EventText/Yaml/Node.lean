import EventText.Yaml.Token

/-!
Nodes: what a document says, without the ways to write it. Anchors are numbered, and aliases name
the number of the anchor that they repeat.
-/

namespace EventText.Yaml

inductive Node where
  | scalar (style : Style) (tagged : Bool) (text : Text)
  | sequence (items : List Node)
  | mapping (entries : List (Node × Node))
  /-- A node that an anchor named before. -/
  | alias (number : Nat)

/-- A document with its anchored nodes by number. Of several nodes with one number the first in the
list counts. -/
structure Document where
  root : Node
  anchors : List (Nat × Node) := []

/-- Where a node stands. In a block mapping, a sequence need not be indented. -/
inductive Context where
  | flow
  | block
  | entry
deriving DecidableEq

structure Reader where
  tokens : List Token
  /-- The handles that tags may use. -/
  handles : List Text
  /-- The names of anchors by number. -/
  names : List (Text × Nat) := []
  /-- The anchored nodes by number, newest first. -/
  anchors : List (Nat × Node) := []

structure Properties where
  anchor : Option Text := none
  tagged : Bool := false

def emptyNode (tagged : Bool) : Node :=
  .scalar .plain tagged []

namespace Reader

def skip (s : Reader) : Reader :=
  { s with tokens := s.tokens.tail }

def isAt (s : Reader) (tokens : List Token) : Bool :=
  s.tokens.head?.any tokens.contains

def knowsHandle (s : Reader) (handle : Option Text) : Bool :=
  handle.all s.handles.contains

/-- An anchor and a tag in either order, each of them optional. -/
def readProperties? (s : Reader) : Option (Properties × Reader) :=
  match s.tokens with
  | .anchor name :: .tag handle :: rest =>
    if s.knowsHandle handle then some (⟨some name, true⟩, { s with tokens := rest }) else none
  | .tag handle :: .anchor name :: rest =>
    if s.knowsHandle handle then some (⟨some name, true⟩, { s with tokens := rest }) else none
  | .anchor name :: rest => some (⟨some name, false⟩, { s with tokens := rest })
  | .tag handle :: rest =>
    if s.knowsHandle handle then some (⟨none, true⟩, { s with tokens := rest }) else none
  | _ => some (⟨none, false⟩, s)

/-- Gives an anchor the number of names that are known so far, also when its own is among them. -/
def declare (s : Reader) (name : Text) : Reader :=
  { s with names := (name, s.names.length) :: s.names.filter (·.1 != name) }

/-- An anchored node. The nodes within it were anchored after it. -/
def anchored (before after : Reader) (node : Node) : Reader :=
  { after with anchors := after.anchors ++ (before.names.length, node) :: before.anchors }

mutual

def readNode? : Nat → Context → Reader → Option (Node × Reader)
  | 0, _, _ => none
  | fuel + 1, context, s =>
    match s.tokens with
    | .alias name :: rest => do
      return (.alias (← s.names.lookup name), { s with tokens := rest })
    | _ => do
      let (properties, s) ← s.readProperties?
      match properties.anchor with
      | none => readContent? fuel context properties s
      | some name => do
        let (node, after) ← readContent? fuel context properties { s.declare name with anchors := [] }
        return (node, s.anchored after node)

/-- The content of a node behind its properties. With properties it may be missing. -/
def readContent? : Nat → Context → Properties → Reader → Option (Node × Reader)
  | 0, _, _, _ => none
  | fuel + 1, context, properties, s =>
    match s.tokens with
    | .scalar style text :: rest =>
      some (.scalar style properties.tagged text, { s with tokens := rest })
    | .openSequence :: rest => do
      let (items, s) ← readFlowItems? fuel true { s with tokens := rest }
      return (.sequence items, s)
    | .openMapping :: rest => do
      let (entries, s) ← readFlowEntries? fuel true { s with tokens := rest }
      return (.mapping entries, s)
    | token :: rest =>
      if token = .blockSequence && context ≠ .flow then do
        let (items, s) ← readItems? fuel { s with tokens := rest }
        return (.sequence items, s)
      else if token = .blockMapping && context ≠ .flow then do
        let (entries, s) ← readEntries? fuel { s with tokens := rest }
        return (.mapping entries, s)
      else if token = .item && context = .entry then do
        let (items, s) ← readBareItems? fuel s
        return (.sequence items, s)
      else if properties.anchor.isSome || properties.tagged then
        some (emptyNode properties.tagged, s)
      else
        none
    | [] =>
      if properties.anchor.isSome || properties.tagged then
        some (emptyNode properties.tagged, s)
      else
        none

def readOptional? : Nat → Context → List Token → Reader → Option (Node × Reader)
  | 0, _, _, _ => none
  | fuel + 1, context, followers, s =>
    if s.isAt followers then some (emptyNode false, s) else readNode? fuel context s

def readMappedValue? : Nat → Context → List Token → Reader → Option (Node × Reader)
  | 0, _, _, _ => none
  | fuel + 1, context, followers, s =>
    if s.isAt [.value] then readOptional? fuel context followers s.skip
    else some (emptyNode false, s)

def readItems? : Nat → Reader → Option (List Node × Reader)
  | 0, _ => none
  | fuel + 1, s =>
    if s.isAt [.item] then do
      let (item, s) ← readOptional? fuel .block [.item, .blockEnd] s.skip
      let (items, s) ← readItems? fuel s
      return (item :: items, s)
    else if s.isAt [.blockEnd] then
      some ([], s.skip)
    else
      none

/-- The items of a block sequence that is not indented. Anything else than an item ends it. -/
def readBareItems? : Nat → Reader → Option (List Node × Reader)
  | 0, _ => none
  | fuel + 1, s =>
    if s.isAt [.item] then do
      let (item, s) ← readOptional? fuel .block [.item, .key, .value, .blockEnd] s.skip
      let (items, s) ← readBareItems? fuel s
      return (item :: items, s)
    else
      some ([], s)

def readEntries? : Nat → Reader → Option (List (Node × Node) × Reader)
  | 0, _ => none
  | fuel + 1, s =>
    if s.isAt [.key] then do
      let (key, s) ← readOptional? fuel .entry [.key, .value, .blockEnd] s.skip
      let (value, s) ← readMappedValue? fuel .entry [.key, .value, .blockEnd] s
      let (entries, s) ← readEntries? fuel s
      return ((key, value) :: entries, s)
    else if s.isAt [.blockEnd] then
      some ([], s.skip)
    else
      none

def readFlowItems? : Nat → Bool → Reader → Option (List Node × Reader)
  | 0, _, _ => none
  | fuel + 1, first, s =>
    if s.isAt [.closeSequence] then
      some ([], s.skip)
    else if !first && !s.isAt [.comma] then
      none
    else
      let s := if first then s else s.skip
      if s.isAt [.closeSequence] then
        some ([], s.skip)
      else do
        let (item, s) ← if s.isAt [.key] then readPair? fuel s.skip else readNode? fuel .flow s
        let (items, s) ← readFlowItems? fuel false s
        return (item :: items, s)

/-- An entry that stands in a flow sequence as an item, behind the mark of its key. The token behind
a key that is missing is passed over. -/
def readPair? : Nat → Reader → Option (Node × Reader)
  | 0, _ => none
  | fuel + 1, s => do
    let (key, s) ←
      if s.isAt [.value, .comma, .closeSequence] then some (emptyNode false, s.skip)
      else readNode? fuel .flow s
    let (value, s) ← readMappedValue? fuel .flow [.comma, .closeSequence] s
    return (.mapping [(key, value)], s)

def readFlowEntries? : Nat → Bool → Reader → Option (List (Node × Node) × Reader)
  | 0, _, _ => none
  | fuel + 1, first, s =>
    if s.isAt [.closeMapping] then
      some ([], s.skip)
    else if !first && !s.isAt [.comma] then
      none
    else
      let s := if first then s else s.skip
      if s.isAt [.closeMapping] then
        some ([], s.skip)
      else do
        let (entry, s) ← readFlowEntry? fuel s
        let (entries, s) ← readFlowEntries? fuel false s
        return (entry :: entries, s)

/-- An entry of a flow mapping. A node without the mark of a key has an empty value. -/
def readFlowEntry? : Nat → Reader → Option ((Node × Node) × Reader)
  | 0, _ => none
  | fuel + 1, s =>
    if s.isAt [.key] then do
      let (key, s) ← readOptional? fuel .flow [.value, .comma, .closeMapping] s.skip
      let (value, s) ← readMappedValue? fuel .flow [.comma, .closeMapping] s
      return ((key, value), s)
    else do
      let (key, s) ← readNode? fuel .flow s
      return ((key, emptyNode false), s)

end

end Reader

def leadingDirectives : List Token → List Directive
  | .directive directive :: rest => directive :: leadingDirectives rest
  | _ => []

def Directive.version? : Directive → Option (Nat × Nat)
  | version major minor => some (major, minor)
  | handle _ => none

def Directive.handle? : Directive → Option Text
  | version _ _ => none
  | handle name => some name

/-- The handles that a document may use, its own and the two that every document has. Directives
must not repeat each other, and the version must be 1.1 or 1.2. -/
def handlesOf? (directives : List Directive) : Option (List Text) :=
  let versions := directives.filterMap Directive.version?
  let handles := directives.filterMap Directive.handle?
  if versions.length ≤ 1 && versions.all ([(1, 1), (1, 2)].contains ·) && handles.Nodup then
    some (handles ++ [['!'], ['!', '!']])
  else
    none

namespace Document

/-- A document from its root on. Marks of its end may follow it, and nothing else. -/
def ofRoot? (handles : List Text) (tokens : List Token) : Option Document := do
  let (root, s) ← Reader.readNode? (4 * tokens.length + 4) .block { tokens, handles }
  if (s.tokens.dropWhile (· == .documentEnd)).isEmpty then
    return ⟨root, s.anchors⟩
  else
    none

def ofMarked? (tokens : List Token) : Option Document := do
  let directives := leadingDirectives tokens
  let handles ← handlesOf? directives
  match tokens.drop directives.length with
  | .documentStart :: rest =>
    if rest.all (· == .documentEnd) then return ⟨emptyNode false, []⟩
    ofRoot? handles rest
  | _ => none

/-- The only document of a stream, if there is one. -/
def ofTokens? (tokens : List Token) : Option (Option Document) :=
  match tokens with
  | [] => some none
  | .directive _ :: _ => (ofMarked? tokens).map some
  | .documentStart :: _ => (ofMarked? tokens).map some
  | _ => (handlesOf? []).bind fun handles => (ofRoot? handles tokens).map some

def ofText? (text : Text) : Option (Option Document) := do
  ofTokens? (← tokens? text)

def follow? (d : Document) : Node → Option Node
  | .alias number => d.anchors.lookup number
  | node => some node

def textOf? (d : Document) (node : Node) : Option Text := do
  match ← d.follow? node with
  | .scalar _ _ text => return text
  | _ => none

end Document

end EventText.Yaml
