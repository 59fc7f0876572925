import LiveConfig.Text.Basic
import LiveConfig.Text.Blank

/-!
# Digits of all scripts

Every script has its ten decimal digits in a row.  A number can be written with the digits of any
script, also mixed, and blanks of any kind can stand around it.  The table lists the zeros, in
ascending order, as of Unicode 14.
-/

namespace LiveConfig.Text

/-- The code points of the digits zero. -/
def zeroDigits : List Nat := [
    48, 1632, 1776, 1984, 2406, 2534, 2662, 2790, 2918, 3046, 3174, 3302, 3430, 3558, 3664, 3792,
    3872, 4160, 4240, 6112, 6160, 6470, 6608, 6784, 6800, 6992, 7088, 7232, 7248, 42528, 43216,
    43264, 43472, 43504, 43600, 44016, 65296, 66720, 68912, 69734, 69872, 69942, 70096, 70384,
    70736, 70864, 71248, 71360, 71472, 71904, 72016, 72784, 73040, 73120, 92768, 92864, 93008,
    120782, 120792, 120802, 120812, 120822, 123200, 123632, 125264, 130032]

/-- The ASCII digit of the same value as a decimal digit. -/
def asciiDigit? (c : Char) : Option Char :=
  (zeroDigits.find? fun z => z ≤ c.toNat && c.toNat < z + 10).map fun z =>
    Char.ofNat (48 + (c.toNat - z))

/--
A code point as it counts in a number: digits of all scripts are ASCII digits, and blanks outside
ASCII are blanks.  A surrogate is a character that no number holds.
-/
def numeralChar : CodePoint → Char
  | .surrogate _ => '\ufffd'
  | .char c =>
    if c.toNat < 127 then c
    else if isBlank c then ' '
    else (asciiDigit? c).getD c

/-- Whether a character can stand around a number: a space, a tab or a line break. -/
def isNumberBlank (c : Char) : Bool :=
  c == ' ' || (9 ≤ c.toNat && c.toNat ≤ 13)

/-- Characters without the blanks around a number. -/
def stripNumber (cs : List Char) : List Char :=
  ((cs.dropWhile isNumberBlank).reverse.dropWhile isNumberBlank).reverse

/-- The characters of a number, in ASCII as far as they can stand in one. -/
def numeralChars (t : Text) : List Char :=
  stripNumber (t.points.map numeralChar)

end LiveConfig.Text
