import LiveConfig.Yaml.Fault

/-!
# Characters with their places

A text is read as a list of spots, each a character with its place in the text.  The list ends
with the null character, which no document may hold, so that the end too has a place and reading
beyond it needs no case of its own.

A line ends at a line feed, a carriage return, a carriage return with a line feed, a next-line
character, or a separator of lines or paragraphs.
-/

namespace LiveConfig.Yaml

/-- A character and where it stands. -/
structure Spot where
  char : Char
  index : Nat
  line : Nat
  column : Nat

/-! ## Classes of characters -/

/-- The character after the last one. -/
def endChar : Char := '\x00'

def isBreak (c : Char) : Bool :=
  c == '\n' || c == '\r' || c == '\x85' || c == '\u2028' || c == '\u2029'

/-- A line break or the end. -/
def isLineEnd (c : Char) : Bool :=
  c == endChar || isBreak c

/-- A space, a line break or the end. -/
def isSpaceOrEnd (c : Char) : Bool :=
  c == ' ' || isLineEnd c

/-- A space, a tab, a line break or the end. -/
def isGap (c : Char) : Bool :=
  c == '\t' || isSpaceOrEnd c

def isBlank (c : Char) : Bool :=
  c == ' ' || c == '\t'

/-- The brackets and commas of flow collections. -/
def isFlowMark (c : Char) : Bool :=
  c == ',' || c == '[' || c == ']' || c == '\x7b' || c == '\x7d'

/-- The characters of names of anchors, handles and directives. -/
def isNameChar (c : Char) : Bool :=
  c.isAlphanum || c == '-' || c == '_'

/-- Whether a document may hold a character. -/
def isAllowed (c : Char) : Bool :=
  let n := c.toNat
  n == 9 || n == 10 || n == 13 || (0x20 ≤ n && n ≤ 0x7e) || n == 0x85 ||
    (0xa0 ≤ n && n ≤ 0xd7ff) || (0xe000 ≤ n && n ≤ 0xfffd) || 0x10000 ≤ n

/-- The value of a hexadecimal digit. -/
def hexValue? (c : Char) : Option Nat :=
  if c.isDigit then some (c.toNat - 48)
  else if 'a' ≤ c ∧ c ≤ 'f' then some (c.toNat - 87)
  else if 'A' ≤ c ∧ c ≤ 'F' then some (c.toNat - 55)
  else none

/-! ## Places -/

/-- The mark of byte order, which takes no column. -/
def orderMark : Char := '\ufeff'

/-- The characters of a text that starts at the given place, and the end. -/
def placed (index line column : Nat) : List Char → List Spot
  | [] => [⟨endChar, index, line, column⟩]
  | c :: cs =>
    let here : Spot := ⟨c, index, line, column⟩
    if isBreak c && !(c == '\r' && cs.head? == some '\n') then
      here :: placed (index + 1) (line + 1) 0 cs
    else if c == orderMark then here :: placed (index + 1) line column cs
    else here :: placed (index + 1) line (column + 1) cs

/-- The rest of a text. -/
structure Spots where
  list : List Spot

namespace Spots

/-- A whole text. -/
def ofText (text : List Char) : Spots :=
  ⟨placed 0 0 0 text⟩

def length (s : Spots) : Nat :=
  s.list.length

/-- The rest after the next `n` characters. -/
def drop (s : Spots) (n : Nat) : Spots :=
  ⟨s.list.drop n⟩

/-- The next `n` characters. -/
def take (s : Spots) (n : Nat) : List Char :=
  (s.list.take n).map Spot.char

/-- The next character. -/
def peek (s : Spots) : Char :=
  match s.list with
  | [] => endChar
  | here :: _ => here.char

/-- The character after the next `n`. -/
def peekAt (s : Spots) (n : Nat) : Char :=
  (s.drop n).peek

def column (s : Spots) : Nat :=
  match s.list with
  | [] => 0
  | here :: _ => here.column

def line (s : Spots) : Nat :=
  match s.list with
  | [] => 0
  | here :: _ => here.line

def index (s : Spots) : Nat :=
  match s.list with
  | [] => 0
  | here :: _ => here.index

/-- The characters up to the first one outside a class, and the rest. -/
def span (s : Spots) (p : Char → Bool) : List Char × Spots :=
  ((s.list.takeWhile fun x => p x.char).map Spot.char, ⟨s.list.dropWhile fun x => p x.char⟩)

/-- The rest after all characters of a class. -/
def skip (s : Spots) (p : Char → Bool) : Spots :=
  ⟨s.list.dropWhile fun x => p x.char⟩

def skipSpaces (s : Spots) : Spots :=
  s.skip (· == ' ')

/-- The rest after a comment, if one starts here. -/
def skipComment (s : Spots) : Spots :=
  if s.peek == '#' then s.skip fun c => !isLineEnd c else s

/-- Takes a line break; all but the separators of lines and paragraphs read as a line feed. -/
def takeBreak (s : Spots) : Option (Char × Spots) :=
  let c := s.peek
  if c == '\r' && s.peekAt 1 == '\n' then some ('\n', s.drop 2)
  else if c == '\u2028' || c == '\u2029' then some (c, s.drop 1)
  else if isBreak c then some ('\n', s.drop 1)
  else none

/-- The rest after a line break, if one stands here. -/
def skipBreak (s : Spots) : Spots :=
  match s.takeBreak with
  | some (_, rest) => rest
  | none => s

/-- Whether the next three characters are the given one and a gap follows. -/
def isTriple (s : Spots) (c : Char) : Bool :=
  s.peek == c && s.peekAt 1 == c && s.peekAt 2 == c && isGap (s.peekAt 3)

/-- Whether the start or the end of a document is marked here. -/
def isSeparator (s : Spots) : Bool :=
  s.isTriple '-' || s.isTriple '.'

end Spots

end LiveConfig.Yaml
