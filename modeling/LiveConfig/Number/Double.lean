/-!
# Doubles as exact dyadic numbers

A double is kept by its 64 bits, so that comparing, printing and reading it is arithmetic on
integers.  Every finite double is a whole multiple of `2 ^ (-1074)`; `Double.scaled?` is that
multiple, and two finite doubles are equal numbers exactly when their multiples agree.
-/

namespace LiveConfig

/-- The power `2 ^ n`. -/
def twoTo (n : Nat) : Nat :=
  Nat.pow 2 n

/-- The power `10 ^ n`. -/
def tenTo (n : Nat) : Nat :=
  Nat.pow 10 n

/-- A double precision number, kept by its bits. -/
structure Double where
  bits : UInt64
  deriving DecidableEq, Inhabited

namespace Double

/-- The sign bit. -/
def negative (x : Double) : Bool :=
  decide (twoTo 63 ≤ x.bits.toNat)

/-- The bits without the sign. -/
def magnitude (x : Double) : Nat :=
  x.bits.toNat % twoTo 63

/-- The eleven exponent bits. -/
def exponentField (x : Double) : Nat :=
  x.magnitude / twoTo 52

/-- The fifty-two fraction bits. -/
def fractionField (x : Double) : Nat :=
  x.magnitude % twoTo 52

/-- Not a number. -/
def isNan (x : Double) : Bool :=
  x.exponentField == 2047 && x.fractionField != 0

/-- Positive or negative infinity. -/
def isInfinite (x : Double) : Bool :=
  x.exponentField == 2047 && x.fractionField == 0

/-- The significand `m` of a finite double `m * 2 ^ q`. -/
def significand (x : Double) : Nat :=
  if x.exponentField = 0 then x.fractionField else twoTo 52 + x.fractionField

/-- The distance of the exponent `q` from its least value `-1074`. -/
def shift (x : Double) : Nat :=
  x.exponentField - 1

/-- The magnitude of a finite double in units of `2 ^ (-1074)`. -/
def units (x : Double) : Nat :=
  x.significand * twoTo x.shift

/-- A finite double in units of `2 ^ (-1074)`; nothing for infinities and not-a-number. -/
def scaled? (x : Double) : Option Int :=
  if x.exponentField = 2047 then none
  else some (if x.negative then -(x.units : Int) else x.units)

/-- The double with the given sign and magnitude bits. -/
def ofMagnitude (negative : Bool) (magnitude : Nat) : Double :=
  ⟨UInt64.ofNat ((if negative then twoTo 63 else 0) + magnitude)⟩

def zero : Double := ofMagnitude false 0

/-- The magnitude bits of infinity. -/
def infinityBits : Nat := 2047 * twoTo 52

def infinity : Double := ofMagnitude false infinityBits

/--
The not-a-number of a number.  As not-a-numbers are equal to nothing, the number in the bits is
what tells one from another.
-/
def nan (n : Nat) : Double :=
  ofMagnitude false (infinityBits + twoTo 51 + n % twoTo 51)

/-- The number of a not-a-number. -/
def nanNumber (x : Double) : Nat :=
  x.magnitude % twoTo 51

/-- Gives a not-a-number its number; other doubles stay. -/
def numberNan (n : Nat) (x : Double) : Double :=
  if x.isNan then nan n else x

/--
Counts the number of a not-a-number from another number than one on.  The one with the number zero
and other doubles stay.
-/
def numberFrom (first : Nat) (x : Double) : Double :=
  if x.isNan && x.nanNumber != 0 then nan (first + (x.nanNumber - 1)) else x

/-- Changes the sign; a not-a-number has none. -/
def neg (x : Double) : Double :=
  if x.isNan then x else ofMagnitude (!x.negative) x.magnitude

/-- The whole number nearest to `num / den`, a half going to the even neighbour. -/
def roundEven (num den : Nat) : Nat :=
  let q := num / den
  let r := num % den
  if 2 * r < den then q
  else if 2 * r > den then q + 1
  else if q % 2 = 0 then q else q + 1

/-- The `e` with `2 ^ e ≤ num / den < 2 ^ (e + 1)`, for positive `num` and `den`. -/
def binaryExponent (num den : Nat) : Int :=
  let e : Int := (num.log2 : Int) - den.log2
  if 0 ≤ e then (if den * twoTo e.toNat ≤ num then e else e - 1)
  else (if den ≤ num * twoTo (-e).toNat then e else e - 1)

/--
The magnitude bits of the double nearest to `num / den`.

The unit in the last place is `2 ^ q`; written in that unit the number rounds to `m`, and the
bits are `(q + 1074) * 2 ^ 52 + m` both for subnormal and for normal numbers, a carry out of
the significand included.
-/
def nearestBits (num den : Nat) : Nat :=
  if num = 0 then 0
  else
    let q := max (binaryExponent num den - 52) (-1074)
    let m :=
      if 0 ≤ q then roundEven num (den * twoTo q.toNat)
      else roundEven (num * twoTo (-q).toNat) den
    min ((q + 1074).toNat * twoTo 52 + m) infinityBits

/-- The double nearest to a fraction. -/
def ofFraction (negative : Bool) (num den : Nat) : Double :=
  ofMagnitude negative (nearestBits num den)

/--
The double nearest to `digits * 10 ^ exponent`.  Numbers far outside the range of doubles are
settled by their number of digits, without writing the power of ten out.
-/
def ofDecimal (negative : Bool) (digits : Nat) (exponent : Int) : Double :=
  let places : Int := (Nat.toDigits 10 digits).length
  if digits = 0 || places + exponent < -330 then ofMagnitude negative 0
  else if 330 < places + exponent then ofMagnitude negative infinityBits
  else if 0 ≤ exponent then ofFraction negative (digits * tenTo exponent.toNat) 1
  else ofFraction negative digits (tenTo (-exponent).toNat)

/-- The double nearest to a whole number. -/
def ofInt (n : Int) : Double :=
  ofFraction (decide (n < 0)) n.natAbs 1

/-- Rounded addition. -/
def add (x y : Double) : Double :=
  ⟨(Float.ofBits x.bits + Float.ofBits y.bits).toBits⟩

/-- Rounded multiplication. -/
def mul (x y : Double) : Double :=
  ⟨(Float.ofBits x.bits * Float.ofBits y.bits).toBits⟩

end Double

end LiveConfig
