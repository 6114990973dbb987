import EventText.Yaml.Characters
import EventText.Yaml.Quoted

/-!
Block scalars: lines that are indented below their parent, behind a header that may fix the
indentation and says what becomes of the breaks at the end. Literal scalars keep line breaks; folded
ones join neighbouring lines that do not begin with blanks.
-/

namespace EventText.Yaml

/-- What becomes of the line breaks at the end of a block scalar: none, the first, or all stay. -/
inductive Chomping where
  | strip
  | clip
  | keep
deriving DecidableEq

def Chomping.ofSign? : Char → Option Chomping
  | '-' => some strip
  | '+' => some keep
  | _ => none

/-- What stays of the first break after the last line and of the breaks after that. -/
def Chomping.tail : Chomping → Text → Text → Text
  | strip, _, _ => []
  | clip, first, _ => first
  | keep, first, more => first ++ more

def readSign : Text → Chomping × Text
  | [] => (.clip, [])
  | c :: rest =>
    match Chomping.ofSign? c with
    | some chomping => (chomping, rest)
    | none => (.clip, c :: rest)

/-- The digit of a header, if there is one, and the text after it. Zero is no indentation. -/
def readWidth? : Text → Option (Option Nat × Text)
  | [] => some (none, [])
  | c :: rest =>
    if c = '0' then none
    else if c.isDigit then some (some (c.toNat - '0'.toNat), rest)
    else some (none, c :: rest)

/-- The header of a block scalar: a sign and a digit in either order, each of them optional. -/
def readHeader? (text : Text) : Option (Chomping × Option Nat × Text) := do
  match readSign text with
  | (.clip, _) =>
    let (width, rest) ← readWidth? text
    if width.isNone then return (.clip, none, rest)
    let (chomping, rest) := readSign rest
    return (chomping, width, rest)
  | (chomping, rest) =>
    let (width, rest) ← readWidth? rest
    return (chomping, width, rest)

structure Lead where
  breaks : Text
  /-- The greatest column that was reached. -/
  widest : Nat
  /-- The column of the content. -/
  column : Nat
  rest : Text

/-- The column lies to the left of the indentation, as every column does while it is unknown. -/
def isIndenting (indent : Option Nat) (column : Nat) : Bool :=
  indent.all (column < ·)

/-- Passes over indentation and empty lines. A tab may not stand in for indentation. -/
def readLead? (indent : Option Nat) (column widest : Nat) : Text → Option Lead
  | [] => some ⟨[], max widest column, column, []⟩
  | c :: rest =>
    if c = ' ' && isIndenting indent column then
      readLead? indent (column + 1) widest rest
    else if c = '\t' && isIndenting indent column then
      none
    else if isBreak c then
      (readLead? indent 0 (max widest column) rest).map fun lead =>
        { lead with breaks := c :: lead.breaks }
    else
      some ⟨[], max widest column, column, c :: rest⟩

theorem length_readLead? {indent : Option Nat} {column widest : Nat} {text : Text} {lead : Lead}
    (h : readLead? indent column widest text = some lead) : lead.rest.length ≤ text.length := by
  induction text generalizing column widest lead with
  | nil =>
    simp only [readLead?, Option.some.injEq] at h
    simp [← h]
  | cons c rest ih =>
    unfold readLead? at h
    split at h
    · exact Nat.le_succ_of_le (ih h)
    · split at h
      · cases h
      · split at h
        · obtain ⟨inner, hinner, rfl⟩ := Option.map_eq_some_iff.1 h
          have hle := ih hinner
          exact Nat.le_succ_of_le hle
        · cases h
          exact Nat.le_refl _

/-- How the breaks between two lines are read, `first` being the one that ends the upper line. -/
def joinLines (folded : Bool) (first more : Text) : Text :=
  if folded && first == ['\n'] then
    if more.isEmpty then [' '] else more
  else
    first ++ more

def cutLine (text : Text) : Text × Text × Text :=
  match text.dropWhile (!isBreak ·) with
  | [] => (text.takeWhile (!isBreak ·), [], [])
  | c :: rest => (text.takeWhile (!isBreak ·), [c], rest)

theorem length_cutLine (c : Char) (text : Text) :
    (cutLine (c :: text)).2.2.length < (c :: text).length := by
  have := (List.dropWhile_sublist (l := c :: text) (!isBreak ·)).length_le
  unfold cutLine
  split
  · simp
  · next rest h =>
    rw [h, List.length_cons] at this
    exact this

/-- The lines from a lead on, where `first` ended the line above, which began with a blank if
`blank`. -/
def readLines? (folded : Bool) (chomping : Chomping) (indent : Nat) (first : Text) (blank : Bool)
    (lead : Lead) : Option (Text × Text) :=
  match _content : lead.rest with
  | [] => some (chomping.tail first lead.breaks, [])
  | c :: text =>
    if lead.column = indent then
      match _next : readLead? (some indent) 0 0 (cutLine (c :: text)).2.2 with
      | none => none
      | some next => do
        let joined := joinLines (folded && !blank && !isGap c) first lead.breaks
        let line := (cutLine (c :: text)).1
        let (more, rest) ← readLines? folded chomping indent (cutLine (c :: text)).2.1 (isGap c) next
        return (joined ++ line ++ more, rest)
    else
      some (chomping.tail first lead.breaks, c :: text)
termination_by lead.rest.length
decreasing_by
  have hlead := length_readLead? _next
  have hline := length_cutLine c text
  simp only [_content]
  omega

/-- The value of a block scalar behind its indicator, and the text after it. The lines are indented
below `parent`, the column of the collection that holds the scalar: by the width in the header, else
as the first line with content is, the empty lines above it included. -/
def readBlock? (folded : Bool) (parent : Option Nat) (text : Text) : Option (Text × Text) := do
  let (chomping, width, rest) ← readHeader? text
  let rest ← dropLineEnd? rest
  let indent := width.map (parent.getD 0 + ·)
  let lead ← readLead? indent 0 0 rest
  let detected := max lead.widest (max (parent.elim 0 (· + 1)) 1)
  readLines? folded chomping (indent.getD detected) [] false lead

/-- Whether the text begins with a blank or a break, so that the header must fix the indentation. -/
def needsWidth : Text → Bool
  | [] => false
  | c :: _ => c == ' ' || isBreak c

/-- The sign of the header that keeps the breaks at the end of a text. -/
def signFor (text : Text) : Text :=
  match text.reverse with
  | [] => ['-']
  | last :: before =>
    if !isBreak last then ['-']
    else if before.head?.all isBreak then ['+']
    else []

/-- The lines of a literal scalar, each indented unless it is empty. -/
def literalLines (afterBreak : Bool) : Text → Text
  | [] => []
  | c :: rest =>
    if isBreak c then c :: literalLines true rest
    else (if afterBreak then indentation else []) ++ c :: literalLines false rest

def writeLiteral (text : Text) : Text :=
  '|' :: (if needsWidth text then ['2'] else []) ++ signFor text ++ '\n' :: literalLines true text

end EventText.Yaml
