import LiveConfig.Yaml.Spot

/-!
# Plain scalars

A plain scalar has no quotes.  It ends before a colon that a gap follows and before a comment,
in flow collections also before a bracket, a comma or a question mark, and at a line that is
indented less than it must be.  Line breaks inside it fold as in quoted scalars.
-/

namespace LiveConfig.Yaml.Plain

/-- Whether a plain scalar can start here. -/
def startsHere (flow : Bool) (s : Spots) : Bool :=
  let c := s.peek
  let indicators := ("-?:,[]\x7b\x7d#&*!|>'\"%@\x60").toList
  !(isGap c || indicators.contains c) ||
    (!isGap (s.peekAt 1) && (c == '-' || (!flow && (c == '?' || c == ':'))))

/-- Whether a piece without gaps ends here. -/
def endsHere (flow : Bool) (s : Spots) : Bool :=
  let c := s.peek
  isGap c ||
    (c == ':' && (isGap (s.peekAt 1) || (flow && isFlowMark (s.peekAt 1)))) ||
    (flow && (c == '?' || isFlowMark c))

/-- A piece without gaps, and the rest, after some characters in reverse. -/
def readPiece (flow : Bool) (piece : List Char) : Nat → Spots → List Char × Spots
  | 0, s => (piece.reverse, s)
  | n + 1, s =>
    if endsHere flow s then (piece.reverse, s)
    else readPiece flow (s.peek :: piece) n (s.drop 1)

/-- What stands between two pieces. -/
structure Gap where
  /-- The text it stands for; empty if no further piece can follow. -/
  text : List Char
  /-- Whether it spans lines. -/
  multiline : Bool
  rest : Spots

/-- Line breaks and spaces up to other text, or nothing at a separator; `done` is reversed. -/
def readBreaks (done : List Char) : Nat → Spots → Option (List Char) × Spots
  | 0, s => (some done.reverse, s)
  | n + 1, s =>
    if s.peek == ' ' then readBreaks done n (s.drop 1)
    else
      match s.takeBreak with
      | none => (some done.reverse, s)
      | some (c, s) => if s.isSeparator then (none, s) else readBreaks (c :: done) n s

/-- The gap that starts here. -/
def readGap (s : Spots) : Gap :=
  let (spaces, s) := s.span (· == ' ')
  match s.takeBreak with
  | none => ⟨spaces, false, s⟩
  | some (c, s) =>
    if s.isSeparator then ⟨[], true, s⟩
    else
      match readBreaks [] s.length s with
      | (none, s) => ⟨[], true, s⟩
      | (some breaks, s) =>
        if c ≠ '\n' then ⟨c :: breaks, true, s⟩
        else if breaks.isEmpty then ⟨[' '], true, s⟩
        else ⟨breaks, true, s⟩

/-- A plain scalar, whether the gap after it spans lines, and the rest. -/
structure Scalar where
  text : List Char
  multiline : Bool
  rest : Spots

/-- Reads on after some text and a gap that spans lines or not. -/
def readFrom (flow : Bool) (indent : Int) (text gap : List Char) (multiline : Bool) :
    Nat → Spots → Scalar
  | 0, s => ⟨text, multiline, s⟩
  | n + 1, s =>
    if s.peek == '#' then ⟨text, multiline, s⟩
    else
      let (piece, rest) := readPiece flow [] s.length s
      if piece.isEmpty then ⟨text, multiline, s⟩
      else
        let text := text ++ gap ++ piece
        let next := readGap rest
        if next.text.isEmpty || next.rest.peek == '#' ||
            (!flow && decide ((next.rest.column : Int) < indent)) then
          ⟨text, next.multiline, next.rest⟩
        else readFrom flow indent text next.text next.multiline n next.rest

/-- The plain scalar that starts here; its lines are indented by at least `indent`. -/
def read (flow : Bool) (indent : Int) (s : Spots) : Scalar :=
  readFrom flow indent [] [] false s.length s

end LiveConfig.Yaml.Plain
