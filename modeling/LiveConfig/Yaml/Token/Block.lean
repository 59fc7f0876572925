import LiveConfig.Yaml.Spot

/-!
# Block scalars

A block scalar is a header and the lines indented below it.  A literal one keeps its line
breaks; a folded one reads a single break between two lines that start with text as a space.
The header may give the indentation and say what happens to the breaks at the end: one is kept
by default, none with a minus, all with a plus.
-/

namespace LiveConfig.Yaml.Block

/-- What happens to the line breaks at the end. -/
inductive Chomping
  | clip
  | strip
  | keep
  deriving DecidableEq

/-- The header of a block scalar. -/
structure Header where
  chomping : Chomping
  indentation : Option Nat

def chomping? (c : Char) : Option Chomping :=
  if c == '+' then some .keep else if c == '-' then some .strip else none

/-- An indentation given in a header; it cannot be zero. -/
def readIndentation (s : Spots) : Except Fault (Option Nat × Spots) :=
  let c := s.peek
  if c.isDigit then
    if c == '0' then .error (.malformed .badBlockHeader)
    else .ok (some (c.toNat - 48), s.drop 1)
  else .ok (none, s)

/-- The indicators of a header in either order. -/
def readIndicators (s : Spots) : Except Fault (Header × Spots) := do
  match chomping? s.peek with
  | some chomping =>
    let (indentation, s) ← readIndentation (s.drop 1)
    return (⟨chomping, indentation⟩, s)
  | none =>
    let (indentation, s) ← readIndentation s
    match indentation, chomping? s.peek with
    | some n, some chomping => return (⟨chomping, some n⟩, s.drop 1)
    | _, _ => return (⟨.clip, indentation⟩, s)

/-- The whole header up to the end of its line. -/
def readHeader (s : Spots) : Except Fault (Header × Spots) := do
  let (header, s) ← readIndicators s
  unless isSpaceOrEnd s.peek do throw (.malformed .badBlockHeader)
  let s := s.skipSpaces.skipComment
  unless isLineEnd s.peek do throw (.malformed .badBlockHeader)
  return (header, s.skipBreak)

/-- Empty lines at the start, the greatest indentation among them, and the rest. -/
def readLeading (breaks : List Char) (widest : Nat) : Nat → Spots → List Char × Nat × Spots
  | 0, s => (breaks.reverse, widest, s)
  | n + 1, s =>
    if s.peek == ' ' then
      let s := s.drop 1
      readLeading breaks (max widest s.column) n s
    else
      match s.takeBreak with
      | some (c, s) => readLeading (c :: breaks) widest n s
      | none => (breaks.reverse, widest, s)

/-- The rest after the indentation. -/
def skipIndent (indent : Nat) (s : Spots) : Spots :=
  ⟨s.list.dropWhile fun x => x.char == ' ' && x.column < indent⟩

/-- Empty lines, with the indentation of the line after them skipped. -/
def readBreaks (indent : Nat) (breaks : List Char) : Nat → Spots → List Char × Spots
  | 0, s => (breaks.reverse, s)
  | n + 1, s =>
    match (skipIndent indent s).takeBreak with
    | some (c, s) => readBreaks indent (c :: breaks) n s
    | none => (breaks.reverse, skipIndent indent s)

/-- The lines of a block: their text, the break after the last one, the empty lines at the end. -/
structure Lines where
  text : List Char
  lastBreak : List Char
  trailing : List Char
  rest : Spots

/-- Whether another line of the block starts here. -/
def hasLine (indent : Nat) (s : Spots) : Bool :=
  s.column == indent && s.peek != endChar

/-- The lines of a block from here on, after some text and empty lines. -/
def readLines (folded : Bool) (indent : Nat) (text breaks : List Char) : Nat → Spots → Lines
  | 0, s => ⟨text, [], breaks, s⟩
  | n + 1, s =>
    if hasLine indent s then
      let (line, rest) := s.span fun c => !isLineEnd c
      let text := text ++ breaks ++ line
      let (lastBreak, rest) :=
        match rest.takeBreak with
        | some (c, rest) => ([c], rest)
        | none => ([], rest)
      let (breaks, rest) := readBreaks indent [] rest.length rest
      if hasLine indent rest then
        if folded && lastBreak == ['\n'] && !isBlank s.peek && !isBlank rest.peek then
          readLines folded indent (if breaks.isEmpty then text ++ [' '] else text) breaks n rest
        else readLines folded indent (text ++ lastBreak) breaks n rest
      else ⟨text, lastBreak, breaks, rest⟩
    else ⟨text, [], breaks, s⟩

/-- The text of a block with the breaks at its end treated as the header says. -/
def Lines.chomped (lines : Lines) : Chomping → List Char
  | .strip => lines.text
  | .clip => lines.text ++ lines.lastBreak
  | .keep => lines.text ++ lines.lastBreak ++ lines.trailing

/-- The block scalar whose indicator stands here, inside a collection of some indentation. -/
def read (parent : Int) (s : Spots) : Except Fault (Text × Spots) := do
  let folded := s.peek == '>'
  let (header, s) ← readHeader (s.drop 1)
  let least := (max (parent + 1) 1).toNat
  let (breaks, indent, s) :=
    match header.indentation with
    | none =>
      let (breaks, widest, s) := readLeading [] 0 s.length s
      (breaks, max least widest, s)
    | some n =>
      let indent := least + n - 1
      let (breaks, s) := readBreaks indent [] s.length s
      (breaks, indent, s)
  let lines := readLines folded indent [] breaks s.length s
  return (Text.ofChars (lines.chomped header.chomping), lines.rest)

end LiveConfig.Yaml.Block
