import LiveConfig.Number.Read
import LiveConfig.Text.Utf8
import LiveConfig.Yaml.Spot
import LiveConfig.Yaml.Token

/-!
# Anchors, aliases, tags and directives

A tag is written in full between angle brackets, or as a handle, which stands for the start of a
tag, followed by the rest; bytes that cannot stand in a tag are escaped with a per cent sign.  A
directive fills a line of its own.
-/

namespace LiveConfig.Yaml.Mark

/-- The name of an anchor or alias, from its indicator on. -/
def readName (s : Spots) : Except Fault (String × Spots) :=
  let (name, s) := (s.drop 1).span isNameChar
  let c := s.peek
  if name.isEmpty then .error (.malformed .badAnchor)
  else if isGap c || ("?:,]\x7d%@\x60").toList.contains c then .ok (String.ofList name, s)
  else .error (.malformed .badAnchor)

/-! ## Tags -/

/-- A handle: an exclamation mark, or a name between two of them. -/
def readHandle (fault : Malformation) (s : Spots) : Except Fault (String × Spots) :=
  if s.peek ≠ '!' then .error (.malformed fault)
  else
    let (name, rest) := (s.drop 1).span isNameChar
    if rest.peek == '!' then .ok ("!" ++ String.ofList name ++ "!", rest.drop 1)
    else if s.peekAt 1 == ' ' then .ok ("!", s.drop 1)
    else .error (.malformed fault)

/-- The characters of a tag. -/
def isTagChar (c : Char) : Bool :=
  c.isAlphanum || ("-;/?:@&=+$,_.!~*'()[]%").toList.contains c

/-- Bytes escaped by per cent signs and two hexadecimal digits each. -/
def readEscaped (fault : Malformation) (bytes : List UInt8) :
    Nat → Spots → Except Fault (List UInt8 × Spots)
  | 0, s => .ok (bytes.reverse, s)
  | n + 1, s =>
    if s.peek == '%' then
      match hexValue? (s.peekAt 1), hexValue? (s.peekAt 2) with
      | some a, some b => readEscaped fault (UInt8.ofNat (a * 16 + b) :: bytes) n (s.drop 3)
      | _, _ => .error (.malformed fault)
    else .ok (bytes.reverse, s)

/-- The characters of a tag with escaped ones replaced, after some text. -/
def readTextFrom (fault : Malformation) (text : List Char) :
    Nat → Spots → Except Fault (List Char × Spots)
  | 0, s => .ok (text, s)
  | n + 1, s =>
    if s.peek == '%' then
      match readEscaped fault [] s.length s with
      | .error e => .error e
      | .ok (bytes, s) =>
        match Text.Utf8.decode bytes with
        | .error _ => .error (.malformed fault)
        | .ok cs => readTextFrom fault (text ++ cs) n s
    else if isTagChar s.peek then readTextFrom fault (text ++ [s.peek]) n (s.drop 1)
    else .ok (text, s)

/-- The text of a tag, which cannot be empty. -/
def readText (fault : Malformation) (s : Spots) : Except Fault (String × Spots) := do
  unless isTagChar s.peek do throw (.malformed fault)
  let (text, s) ← readTextFrom fault [] s.length s
  return (String.ofList text, s)

/-- Whether another exclamation mark follows before a space or the end of the line. -/
def hasSecondMark (s : Spots) : Bool :=
  ((s.drop 1).skip fun c => c != '!' && !isSpaceOrEnd c).peek == '!'

/-- Handle and rest of a tag, from its exclamation mark on. -/
def readTagParts (s : Spots) : Except Fault (Option String × String × Spots) := do
  let c := s.peekAt 1
  if c == '<' then
    let (text, s) ← readText .badTag (s.drop 2)
    if s.peek ≠ '>' then throw (.malformed .badTag)
    return (none, text, s.drop 1)
  else if isGap c then
    return (none, "!", s.drop 1)
  else
    let (handle, s) ← if hasSecondMark s then readHandle .badTag s else pure ("!", s.drop 1)
    let (text, s) ← readText .badTag s
    return (some handle, text, s)

/-- The tag that starts here. -/
def readTag (s : Spots) : Except Fault (Token × Spots) := do
  let (handle, text, s) ← readTagParts s
  unless isSpaceOrEnd s.peek do throw (.malformed .badTag)
  return (.tag handle text, s)

/-! ## Directives -/

/-- A number of at least one digit. -/
def readNumber (s : Spots) : Except Fault (Nat × Spots) :=
  let (digits, s) := s.span Char.isDigit
  if digits.isEmpty then .error (.malformed .badDirective)
  else if Value.maxDecimalDigits < digits.length then
    .error (.impossible (.scalar (.longInteger digits.length)))
  else .ok (decimalNumber digits, s)

/-- The numbers of a version. -/
def readVersion (s : Spots) : Except Fault (Directive × Spots) := do
  let (major, s) ← readNumber s.skipSpaces
  if s.peek ≠ '.' then throw (.malformed .badDirective)
  let (_, s) ← readNumber (s.drop 1)
  unless isSpaceOrEnd s.peek do throw (.malformed .badDirective)
  return (.version major, s)

/-- A handle and what it stands for. -/
def readMeaning (s : Spots) : Except Fault (Directive × Spots) := do
  let (handle, s) ← readHandle .badDirective s.skipSpaces
  if s.peek ≠ ' ' then throw (.malformed .badDirective)
  let (meaning, s) ← readText .badDirective s.skipSpaces
  unless isSpaceOrEnd s.peek do throw (.malformed .badDirective)
  return (.handle handle meaning, s)

/-- The directive that starts here; unknown ones are skipped. -/
def readDirective (s : Spots) : Except Fault (Token × Spots) := do
  let (name, s) := (s.drop 1).span isNameChar
  if name.isEmpty then throw (.malformed .badDirective)
  unless isSpaceOrEnd s.peek do throw (.malformed .badDirective)
  let (directive, s) ←
    match String.ofList name with
    | "YAML" => readVersion s
    | "TAG" => readMeaning s
    | _ => pure (.other, s.skip fun c => !isLineEnd c)
  let s := s.skipSpaces.skipComment
  unless isLineEnd s.peek do throw (.malformed .badDirective)
  return (.directive directive, s.skipBreak)

end LiveConfig.Yaml.Mark
