import LiveConfig.Text.Basic

/-!
# Blanks at the ends of a text

Blank characters are the white-space characters of Unicode together with the four information
separators.  `strip` removes them at both ends; `commaList` cuts a text at its commas and keeps
the stripped parts that are not empty.
-/

namespace LiveConfig.Text

/-- White space, the information separators included. -/
def isBlank (c : Char) : Bool :=
  let n := c.toNat
  (9 ≤ n && n ≤ 13) || (28 ≤ n && n ≤ 32) || n == 0x85 || n == 0xa0 || n == 0x1680 ||
    (0x2000 ≤ n && n ≤ 0x200a) || n == 0x2028 || n == 0x2029 || n == 0x202f || n == 0x205f ||
    n == 0x3000

/-- Whether a code point is a blank. -/
def isBlankPoint : CodePoint → Bool
  | .char c => isBlank c
  | .surrogate _ => false

/-- A text without the blanks at both ends. -/
def strip (t : Text) : Text :=
  ⟨((t.points.dropWhile isBlankPoint).reverse.dropWhile isBlankPoint).reverse⟩

/-- The parts between the separators, in order; a list without separator is one part. -/
def partsAt {α : Type} [DecidableEq α] (separator : α) : List α → List (List α)
  | [] => [[]]
  | x :: xs =>
    if x = separator then [] :: partsAt separator xs
    else
      match partsAt separator xs with
      | [] => [[x]]
      | part :: parts => (x :: part) :: parts

/-- The parts of a text between its separators. -/
def split (separator : Char) (t : Text) : List Text :=
  (partsAt (.char separator) t.points).map Text.mk

/-- The non-empty stripped parts of a comma-separated list. -/
def commaList (t : Text) : List Text :=
  ((split ',' t).map strip).filter fun item => !item.isEmpty

end LiveConfig.Text
