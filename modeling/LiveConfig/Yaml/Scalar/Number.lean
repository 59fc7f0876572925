import LiveConfig.Number.Read
import LiveConfig.Text.Digit
import LiveConfig.Text.LowerCase
import LiveConfig.Yaml.Fault
import LiveConfig.Yaml.Spot

/-!
# Numbers in documents

Underscores in a number are ignored.  A whole number is binary after `0b`, hexadecimal after
`0x`, octal after another zero, in base sixty if it has colons, and decimal otherwise.  A number
with a point is decimal or in base sixty; infinity and not-a-number have names.

A scalar can be tagged as a number without having the form of one.  The marks of base and sign are
ASCII, the digits may be those of any script, and the part that cannot be read is reported.
-/

namespace LiveConfig.Yaml

/-- The value of a digit in a base up to sixteen. -/
def digitValue? (base : Nat) (c : Char) : Option Nat :=
  match hexValue? c with
  | none => none
  | some n => if n < base then some n else none

/-- The letter that marks a base in front of a number. -/
def baseLetter? (base : Nat) : Option Char :=
  [(2, 'b'), (8, 'o'), (16, 'x')].lookup base

/-- The digits behind the mark of their base, if it stands there. -/
def dropBaseMark (base : Nat) (cs : List Char) : List Char :=
  match cs with
  | '0' :: c :: rest => if baseLetter? base == some c.toLower then rest else cs
  | cs => cs

/-- The whole number of a text in a base; blanks around it and a sign are allowed. -/
def wholeNumber (base : Nat) (text : Text) : Except Impossibility Int :=
  let (negative, cs) := Double.takeSign text.numeralChars
  let cs := dropBaseMark base cs
  let values := (cs.takeWhile fun c => (digitValue? base c).isSome).filterMap (digitValue? base)
  if base = 10 ∧ Value.maxDecimalDigits < values.length then
    .error (.scalar (.longInteger values.length))
  else if values.isEmpty || values.length < cs.length then .error (.scalar (.integer base text))
  else
    let n := values.foldl (fun n v => n * base + v) 0
    .ok (if negative then -(n : Int) else n)

/-- A sign at the head of a text, and the rest. -/
def takeSign (t : Text) : Bool × Text :=
  match t.points with
  | .char '-' :: ps => (true, ⟨ps⟩)
  | .char '+' :: ps => (false, ⟨ps⟩)
  | _ => (false, t)

/-- The parts of a text between its colons. -/
def colonParts (t : Text) : List Text :=
  (Text.partsAt (.char ':') t.points).map Text.mk

/-- The parts of a number in base sixty, as one number. -/
def sixtieths (parts : List Int) : Int :=
  parts.foldl (fun n part => n * 60 + part) 0

/-- A whole number without its sign. -/
def unsignedInt (t : Text) : Except Impossibility Int :=
  match t.points with
  | [] => .error .emptyNumber
  | [.char '0'] => .ok 0
  | .char '0' :: .char 'b' :: digits => wholeNumber 2 ⟨digits⟩
  | .char '0' :: .char 'x' :: digits => wholeNumber 16 ⟨digits⟩
  | .char '0' :: _ => wholeNumber 8 t
  | ps =>
    if ps.contains (.char ':') then ((colonParts t).mapM (wholeNumber 10)).map sixtieths
    else wholeNumber 10 t

/-- A number without underscores; something must be left of it. -/
def numberText (t : Text) : Except Impossibility Text :=
  match t.points.filter (· != .char '_') with
  | [] => .error .emptyNumber
  | ps => .ok ⟨ps⟩

/-- The whole number of a scalar. -/
def readInt (t : Text) : Except Impossibility Int := do
  let (negative, t) := takeSign (← numberText t)
  let n ← unsignedInt t
  return if negative then -n else n

/-! ## Numbers with a point -/

/-- The decimal of a text; blanks around it are allowed. -/
def decimal (t : Text) : Except Impossibility Double :=
  match Double.ofText? (String.ofList t.numeralChars) with
  | some x => .ok x
  | none => .error (.scalar (.decimal t))

/--
The sum of the parts of a number in base sixty, the last one first.  A part that counts so much
that no double is near it is refused, whatever its digits.
-/
def sumSixtieths (unit : Nat) (sum : Double) : List Double → Except Impossibility Double
  | [] => .ok sum
  | x :: xs =>
    let factor := Double.ofInt unit
    if factor.isInfinite then .error (.scalar .longSixtieths)
    else sumSixtieths (unit * 60) (sum.add (x.mul factor)) xs

/-- A number with a point without its sign, in small letters. -/
def unsignedFloat (t : Text) : Except Impossibility Double :=
  if t = Text.ofString ".inf" then .ok Double.infinity
  else if t.points.contains (.char ':') then do
    let parts ← (colonParts t).mapM decimal
    sumSixtieths 1 Double.zero parts.reverse
  else decimal t

/--
The double of a scalar.  The word for not-a-number means the same one everywhere, which has the
number zero; any other not-a-number is a new one, which gets the given number.
-/
def readFloat (fresh : Nat) (t : Text) : Except Impossibility Double := do
  let (negative, t) := takeSign (← numberText t).lowered
  if t = Text.ofString ".nan" then return Double.nan 0
  else
    let x ← unsignedFloat t
    return (if negative then x.neg else x).numberNan fresh

end LiveConfig.Yaml
