import LiveConfig.Text.Basic
import LiveConfig.Text.Printable

/-!
# Quoted text

A text is quoted with single quotes, or with double quotes if it holds a single quote and no
double quote.  Inside, the backslash and the quote in use are escaped, so are line feed,
carriage return and tab, and surrogates and characters that are not printable are written by
their number in two, four or eight hexadecimal digits.
-/

namespace LiveConfig.Text

/-- Lower-case hexadecimal digits of a number, at least `width` of them. -/
def hexText (width n : Nat) : String :=
  let digits := Nat.toDigits 16 n
  String.ofList (List.replicate (width - digits.length) '0' ++ digits)

/-- A code point by its number. -/
def numberEscape (n : Nat) : String :=
  if n < 0x100 then "\\x" ++ hexText 2 n
  else if n < 0x10000 then "\\u" ++ hexText 4 n
  else "\\U" ++ hexText 8 n

/-- One character inside quotes of the given kind. -/
def quoteChar (quote c : Char) : String :=
  if c = quote ∨ c = '\\' then String.ofList ['\\', c]
  else if c = '\n' then "\\n"
  else if c = '\r' then "\\r"
  else if c = '\t' then "\\t"
  else if isPrintable c then c.toString
  else numberEscape c.toNat

/-- One code point inside quotes of the given kind. -/
def quotePoint (quote : Char) : CodePoint → String
  | .char c => quoteChar quote c
  | .surrogate n => numberEscape (CodePoint.surrogate n).number

/-- The quote to use for some code points. -/
def quoteFor (points : List CodePoint) : Char :=
  if points.contains (.char '\'') && !points.contains (.char '"') then '"' else '\''

/-- A text in quotes. -/
def quoted (t : Text) : String :=
  let quote := quoteFor t.points
  let body := t.points.map (quotePoint quote)
  quote.toString ++ String.join body ++ quote.toString

/-- A text as it is, but with its surrogates written by their number. -/
def escaped (t : Text) : String :=
  String.join (t.points.map fun
    | .char c => c.toString
    | .surrogate n => numberEscape (CodePoint.surrogate n).number)

/-- Shown items between brackets, separated by commas. -/
def bracketed (items : List String) : String :=
  "[" ++ ", ".intercalate items ++ "]"

/-- A list of quoted texts between brackets. -/
def quotedList (items : List Text) : String :=
  bracketed (items.map quoted)

/-- One byte inside quotes of the given kind: printable ASCII as itself, all else by its number. -/
def quoteByte (quote : Char) (b : UInt8) : String :=
  let c := Char.ofNat b.toNat
  if c = quote ∨ c = '\\' then String.ofList ['\\', c]
  else if c = '\n' then "\\n"
  else if c = '\r' then "\\r"
  else if c = '\t' then "\\t"
  else if 32 ≤ b.toNat ∧ b.toNat < 127 then c.toString
  else "\\x" ++ hexText 2 b.toNat

/-- Bytes in quotes, marked with a `b`. -/
def quotedBytes (data : List UInt8) : String :=
  let quote := quoteFor (data.map fun b => .char (Char.ofNat b.toNat))
  "b" ++ quote.toString ++ String.join (data.map (quoteByte quote)) ++ quote.toString

end LiveConfig.Text
