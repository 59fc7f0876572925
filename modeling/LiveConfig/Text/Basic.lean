/-!
# Texts

A text is a list of code points.  Nearly all of them are characters.  An escape in a document can
also name a surrogate, a code point that stands for no character and that no `String` can hold;
two of them side by side are not the character that they would write in UTF-16.  Names and
messages are texts too, as they can be made of what a document holds.

A class of characters is given by the ranges of their numbers, in ascending order.
-/

namespace LiveConfig

/-- A code point: a character or a surrogate. -/
inductive CodePoint
  | char (c : Char)
  /-- The surrogate that comes `offset` places after the first one. -/
  | surrogate (offset : Fin 2048)
  deriving DecidableEq

namespace CodePoint

/-- The number of the first surrogate. -/
def firstSurrogate : Nat := 0xd800

/-- The number of a code point. -/
def number : CodePoint → Nat
  | .char c => c.toNat
  | .surrogate offset => firstSurrogate + offset

/-- The code point of a number below `0x110000`. -/
def ofNumber (n : Nat) : CodePoint :=
  if h : firstSurrogate ≤ n ∧ n - firstSurrogate < 2048 then
    .surrogate ⟨n - firstSurrogate, h.2⟩
  else .char (Char.ofNat n)

/-- The character of a code point, if it has one. -/
def char? : CodePoint → Option Char
  | .char c => some c
  | .surrogate _ => none

/-- Whether a code point is a surrogate. -/
def isSurrogate : CodePoint → Bool
  | .char _ => false
  | .surrogate _ => true

end CodePoint

/-- A text. -/
structure Text where
  points : List CodePoint
  deriving DecidableEq, Inhabited

namespace Text

/-- The text of some characters. -/
def ofChars (cs : List Char) : Text :=
  ⟨cs.map .char⟩

/-- The text of a string. -/
def ofString (s : String) : Text :=
  ofChars s.toList

instance : Coe String Text := ⟨ofString⟩

/-- The characters of a text without surrogates. -/
def chars? (t : Text) : Option (List Char) :=
  t.points.mapM CodePoint.char?

/-- The text as a string, in which the replacement character stands for surrogates. -/
def plain (t : Text) : String :=
  String.ofList (t.points.map fun p => p.char?.getD '\ufffd')

/-- Texts joined, with another one between each two of them. -/
def joined (between : Text) (ts : List Text) : Text :=
  ⟨between.points.intercalate (ts.map points)⟩

/-- One text after the other. -/
def append (t u : Text) : Text :=
  ⟨t.points ++ u.points⟩

instance : Append Text := ⟨append⟩

def isEmpty (t : Text) : Bool :=
  t.points.isEmpty

/-- Whether a text comes before another one by the numbers of the code points. -/
def isBefore (t u : Text) : Bool :=
  decide (t.points.map CodePoint.number < u.points.map CodePoint.number)

@[simp]
theorem append_points (t u : Text) : (t ++ u).points = t.points ++ u.points := rfl

theorem ofString_inj {s t : String} : ofString s = ofString t ↔ s = t := by
  constructor
  · intro h
    have hp : s.toList.map CodePoint.char = t.toList.map CodePoint.char := congrArg points h
    have hl : s.toList = t.toList := by
      have := congrArg (List.filterMap CodePoint.char?) hp
      simpa [List.filterMap_map, Function.comp_def, CodePoint.char?] using this
    exact String.toList_inj.1 hl
  · exact congrArg ofString

/-! ## Ranges of code points -/

/-- Binary search for a range holding `n` between positions `low` and `high`. -/
def searchRanges (ranges : Array (Nat × Nat)) (n : Nat) : Nat → Nat → Nat → Bool
  | 0, _, _ => false
  | fuel + 1, low, high =>
    if low < high then
      let middle := (low + high) / 2
      let (first, last) := ranges.getD middle (0, 0)
      if n < first then searchRanges ranges n fuel low middle
      else if last < n then searchRanges ranges n fuel (middle + 1) high
      else true
    else false

/-- Whether a number is in one of some ranges; every step of the search halves them. -/
def inRanges (ranges : Array (Nat × Nat)) (n : Nat) : Bool :=
  searchRanges ranges n (ranges.size.log2 + 1) 0 ranges.size

end Text

end LiveConfig
