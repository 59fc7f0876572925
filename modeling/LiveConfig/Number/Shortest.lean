import LiveConfig.Number.Double

/-!
# The fewest digits that read back

`Double.shortest` finds the decimal with the fewest digits inside the interval of numbers that
round to a given double, and among those the one nearest to it.  All arithmetic is on natural
numbers: a point of a decimal grid is compared with the ends of the interval after both are
brought to a common denominator.  `Double.text` writes the digits out.
-/

namespace LiveConfig

/-- The decimal number `digits * 10 ^ exponent`. -/
structure Decimal where
  digits : Nat
  exponent : Int
  deriving DecidableEq

namespace Decimal

/-- Drops the zeros at the end, at most `n` of them. -/
def trim : Nat → Decimal → Decimal
  | 0, d => d
  | n + 1, d =>
    if d.digits ≠ 0 ∧ d.digits % 10 = 0 then trim n ⟨d.digits / 10, d.exponent + 1⟩ else d

end Decimal

namespace Double

/-- A fraction `num / den` of natural numbers. -/
structure Fraction where
  num : Nat
  den : Nat

/-- The fraction `n * 2 ^ e`. -/
def Fraction.dyadic (n : Nat) (e : Int) : Fraction :=
  if 0 ≤ e then ⟨n * twoTo e.toNat, 1⟩ else ⟨n, twoTo (-e).toNat⟩

/-- The fraction `n * 10 ^ e`. -/
def Fraction.decimal (n : Nat) (e : Int) : Fraction :=
  if 0 ≤ e then ⟨n * tenTo e.toNat, 1⟩ else ⟨n, tenTo (-e).toNat⟩

def Fraction.le (x y : Fraction) : Bool :=
  decide (x.num * y.den ≤ y.num * x.den)

def Fraction.lt (x y : Fraction) : Bool :=
  decide (x.num * y.den < y.num * x.den)

/-- The numbers that round to one double. -/
structure Interval where
  low : Fraction
  high : Fraction
  closed : Bool

def Interval.contains (i : Interval) (x : Fraction) : Bool :=
  if i.closed then i.low.le x && x.le i.high else i.low.lt x && x.lt i.high

/--
The numbers that round to the positive double `m * 2 ^ q`: half a unit either way, but only a
quarter downwards at a power of two.  The ends belong to it when `m` is even.
-/
def interval (x : Double) : Interval :=
  let m := x.significand
  let q : Int := (x.shift : Int) - 1074
  let low :=
    if m = twoTo 52 ∧ 1 < x.exponentField then Fraction.dyadic (4 * m - 1) (q - 2)
    else Fraction.dyadic (2 * m - 1) (q - 1)
  ⟨low, Fraction.dyadic (2 * m + 1) (q - 1), m % 2 = 0⟩

/-- The positive double itself as a fraction. -/
def fraction (x : Double) : Fraction :=
  Fraction.dyadic x.significand ((x.shift : Int) - 1074)

/-- The largest whole number of steps `10 ^ e` that does not exceed the fraction. -/
def stepsBelow (x : Fraction) (e : Int) : Nat :=
  if 0 ≤ e then x.num / (x.den * tenTo e.toNat)
  else x.num * tenTo (-e).toNat / x.den

/-- Whether twice the fraction lies above, on or below the middle of step `d` of size `10 ^ e`. -/
def compareMiddle (x : Fraction) (d : Nat) (e : Int) : Ordering :=
  let middle := Fraction.decimal (2 * d + 1) e
  let double : Fraction := ⟨2 * x.num, x.den⟩
  compare (double.num * middle.den) (middle.num * double.den)

/-- The point of the grid `10 ^ e` inside the interval that is nearest to the double, if any. -/
def gridPoint? (x : Fraction) (i : Interval) (e : Int) : Option Decimal :=
  let d := stepsBelow x e
  let below := i.contains (Fraction.decimal d e) && d != 0
  let above := i.contains (Fraction.decimal (d + 1) e)
  if below && above then
    match compareMiddle x d e with
    | .lt => some ⟨d, e⟩
    | .gt => some ⟨d + 1, e⟩
    | .eq => some ⟨if d % 2 = 0 then d else d + 1, e⟩
  else if below then some ⟨d, e⟩
  else if above then some ⟨d + 1, e⟩
  else none

/-- Tries the grids from `e` downwards, `n` of them. -/
def firstGridPoint? (x : Fraction) (i : Interval) : Nat → Int → Option Decimal
  | 0, _ => none
  | n + 1, e => (gridPoint? x i e).or (firstGridPoint? x i n (e - 1))

/-- The decimal exponent to start from: one above that of the leading digit. -/
def topExponent (x : Fraction) : Int :=
  if x.den ≤ x.num then (Nat.toDigits 10 (x.num / x.den)).length
  else 1 - (Nat.toDigits 10 (x.den / x.num)).length

/-- The shortest decimal that rounds to the magnitude of a finite double. -/
def shortest (x : Double) : Decimal :=
  if x.significand = 0 then ⟨0, 0⟩
  else
    let v := x.fraction
    match firstGridPoint? v x.interval 20 (topExponent v + 1) with
    | some d => d.trim 20
    | none => ⟨0, 0⟩

/-- Digits as text. -/
def digitText (n : Nat) : String :=
  String.ofList (Nat.toDigits 10 n)

/-- How decimals are laid out. -/
structure Layout where
  /-- The least decimal exponent of the leading digit that is written positionally. -/
  positionalFrom : Int
  /-- The first decimal exponent of the leading digit that is not written positionally. -/
  positionalBelow : Int
  /-- What follows a whole number. -/
  wholeEnding : String
  /-- The least number of digits of an exponent. -/
  exponentWidth : Nat
  nanText : String
  infinityText : String

/--
Numbers are written positionally from `1e-4` up to below `1e16`, whole numbers end in `.0`, and
exponents have a sign and at least two digits.
-/
def plainLayout : Layout where
  positionalFrom := -4
  positionalBelow := 16
  wholeEnding := ".0"
  exponentWidth := 2
  nanText := "nan"
  infinityText := "inf"

/-- The text of the exponent `e`. -/
def Layout.exponentText (l : Layout) (e : Int) : String :=
  let digits := digitText e.natAbs
  let zeros := String.ofList (List.replicate (l.exponentWidth - digits.length) '0')
  (if e < 0 then "e-" else "e+") ++ zeros ++ digits

/-- The text of a decimal. -/
def Layout.decimalText (l : Layout) (d : Decimal) : String :=
  let digits := Nat.toDigits 10 d.digits
  let lead : Int := d.exponent + digits.length - 1
  if l.positionalFrom ≤ lead ∧ lead < l.positionalBelow then
    if 0 ≤ d.exponent then
      String.ofList (digits ++ List.replicate d.exponent.toNat '0') ++ l.wholeEnding
    else if 0 ≤ lead then
      String.ofList (digits.take (lead.toNat + 1)) ++ "." ++
        String.ofList (digits.drop (lead.toNat + 1))
    else
      "0." ++ String.ofList (List.replicate (-lead - 1).toNat '0' ++ digits)
  else
    let rest := digits.drop 1
    String.ofList (digits.take 1) ++ (if rest.isEmpty then "" else "." ++ String.ofList rest) ++
      l.exponentText lead

/-- The text of a double in a layout. -/
def Layout.text (l : Layout) (x : Double) : String :=
  if x.isNan then l.nanText
  else
    let body := if x.isInfinite then l.infinityText else l.decimalText x.shortest
    if x.negative then "-" ++ body else body

/-- The shortest text that reads back as the double. -/
def text (x : Double) : String :=
  plainLayout.text x

end Double

end LiveConfig
