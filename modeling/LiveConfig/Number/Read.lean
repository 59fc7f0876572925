import LiveConfig.Number.Double

/-!
# Reading decimal text

`Double.ofText?` reads a decimal with an optional point and an optional exponent, or the name of
an infinity or of not-a-number, as the nearest double.
-/

namespace LiveConfig

/-- The number written by some decimal digits. -/
def decimalNumber (digits : List Char) : Nat :=
  digits.foldl (fun n c => n * 10 + (c.toNat - 48)) 0

namespace Double

/-- A sign at the head of some characters, and the rest. -/
def takeSign : List Char → Bool × List Char
  | '-' :: cs => (true, cs)
  | '+' :: cs => (false, cs)
  | cs => (false, cs)

/-- The exponent at the end of a decimal; none is zero. -/
def readExponent? : List Char → Option Int
  | [] => some 0
  | c :: cs =>
    if c = 'e' ∨ c = 'E' then
      let (negative, digits) := takeSign cs
      if digits.isEmpty || !digits.all Char.isDigit then none
      else
        let n : Int := decimalNumber digits
        some (if negative then -n else n)
    else none

/-- A decimal without sign. -/
def readMagnitude? (negative : Bool) (cs : List Char) : Option Double := do
  let whole := cs.takeWhile Char.isDigit
  let rest := cs.dropWhile Char.isDigit
  let (fraction, rest) :=
    match rest with
    | '.' :: rest => (rest.takeWhile Char.isDigit, rest.dropWhile Char.isDigit)
    | rest => ([], rest)
  if whole.isEmpty && fraction.isEmpty then none
  else
    let exponent ← readExponent? rest
    some (ofDecimal negative (decimalNumber (whole ++ fraction)) (exponent - fraction.length))

/-- Reads a decimal, an infinity or not-a-number. -/
def ofText? (s : String) : Option Double :=
  let (negative, cs) := takeSign s.toList
  let word := String.ofList (cs.map Char.toLower)
  if word = "nan" then some (nan 0)
  else if word = "inf" ∨ word = "infinity" then some (ofMagnitude negative infinityBits)
  else readMagnitude? negative cs

end Double

end LiveConfig
