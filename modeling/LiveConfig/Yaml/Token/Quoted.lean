import LiveConfig.Yaml.Spot

/-!
# Quoted scalars

Between single quotes only the quote itself is special: two of them stand for one.  Between
double quotes a backslash starts an escape, which can name a surrogate too.  In both, a line
break with the blanks around it reads as a space, and further line breaks are kept.
-/

namespace LiveConfig.Yaml.Quoted

/-- What a backslash and one character stand for. -/
def escape? (c : Char) : Option Nat :=
  [('0', 0), ('a', 7), ('b', 8), ('t', 9), ('\t', 9), ('n', 10), ('v', 11), ('f', 12), ('r', 13),
    ('e', 27), (' ', 32), ('"', 34), ('\\', 92), ('/', 47), ('N', 0x85), ('_', 0xa0),
    ('L', 0x2028), ('P', 0x2029)].lookup c

/-- How many hexadecimal digits follow a backslash and one character. -/
def escapeDigits? (c : Char) : Option Nat :=
  [('x', 2), ('u', 4), ('U', 8)].lookup c

/-- The number of some hexadecimal digits. -/
def hexNumber? (digits : List Char) : Option Nat :=
  digits.foldl (fun n? c => do return (← n?) * 16 + (← hexValue? c)) (some 0)

/-- The line breaks from here on, blanks around them skipped; `done` is reversed. -/
def readBreaks (done : List CodePoint) :
    Nat → Spots → Except Fault (List CodePoint × Spots)
  | 0, s => .ok (done.reverse, s)
  | n + 1, s =>
    if s.isSeparator then .error (.malformed .separatorInQuotes)
    else
      let s := s.skip isBlank
      match s.takeBreak with
      | some (c, s) => readBreaks (.char c :: done) n s
      | none => .ok (done.reverse, s)

/-- The blanks and line breaks from here on as the text they stand for. -/
def readGap (s : Spots) : Except Fault (List CodePoint × Spots) := do
  let (blanks, s) := s.span isBlank
  if s.peek == endChar then throw (.malformed .unclosedQuote)
  match s.takeBreak with
  | none => return (blanks.map .char, s)
  | some (c, s) =>
    let (breaks, s) ← readBreaks [] s.length s
    if c ≠ '\n' then return (.char c :: breaks, s)
    else if breaks.isEmpty then return ([.char ' '], s)
    else return (breaks, s)

/-- What an escape stands for, from the character after the backslash on. -/
def readEscape (s : Spots) : Except Fault (List CodePoint × Spots) :=
  let c := s.peek
  match escape? c with
  | some n => .ok ([.ofNumber n], s.drop 1)
  | none =>
    match escapeDigits? c with
    | some width =>
      let s := s.drop 1
      match hexNumber? (s.take width) with
      | none => .error (.malformed .badEscape)
      | some n =>
        if n < 0x110000 then .ok ([.ofNumber n], s.drop width)
        else if n < 0x80000000 then .error (.impossible (.scalar .codePoint))
        else .error (.impossible (.scalar .longCodePoint))
    | none =>
      match s.takeBreak with
      | some (_, s) => readBreaks [] s.length s
      | none => .error (.malformed .badEscape)

/-- The code points up to the closing quote, and the rest after it; `done` is reversed. -/
def readFrom (quote : Char) (done : List CodePoint) :
    Nat → Spots → Except Fault (List CodePoint × Spots)
  | 0, _ => .error (.malformed .unclosedQuote)
  | n + 1, s =>
    let c := s.peek
    if c == quote then
      if quote == '\'' && s.peekAt 1 == quote then
        readFrom quote (.char c :: done) n (s.drop 2)
      else .ok (done.reverse, s.drop 1)
    else if quote == '"' && c == '\\' then
      match readEscape (s.drop 1) with
      | .error e => .error e
      | .ok (points, s) => readFrom quote (points.reverse ++ done) n s
    else if isGap c then
      match readGap s with
      | .error e => .error e
      | .ok (points, s) => readFrom quote (points.reverse ++ done) n s
    else readFrom quote (.char c :: done) n (s.drop 1)

/-- The scalar that starts with the quote at this place. -/
def read (s : Spots) : Except Fault (Text × Spots) := do
  let (points, rest) ← readFrom s.peek [] s.length (s.drop 1)
  return (⟨points⟩, rest)

end LiveConfig.Yaml.Quoted
