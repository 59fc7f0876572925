/-!
# Binary data in documents

Four characters of the alphabet stand for three bytes.  Characters outside the alphabet are
skipped.  Padding completes the last group, and what follows it is not read; a last group that
is neither full nor padded is refused.
-/

namespace LiveConfig.Yaml.Base64

/-- The value of a character of the alphabet. -/
def sextet? (c : Char) : Option Nat :=
  if c.isUpper then some (c.toNat - 65)
  else if c.isLower then some (c.toNat - 71)
  else if c.isDigit then some (c.toNat + 4)
  else if c = '+' then some 62
  else if c = '/' then some 63
  else none

/-- A group under way: how many characters it has and the bits not yet written. -/
structure Group where
  count : Nat
  bits : Nat

/-- Takes one more character into a group and gives the byte that it completes. -/
def Group.take (g : Group) (n : Nat) : Group × List UInt8 :=
  match g.count with
  | 0 => (⟨1, n⟩, [])
  | 1 => (⟨2, n % 16⟩, [UInt8.ofNat (g.bits * 4 + n / 16)])
  | 2 => (⟨3, n % 4⟩, [UInt8.ofNat (g.bits * 16 + n / 4)])
  | _ => (⟨0, 0⟩, [UInt8.ofNat (g.bits * 64 + n)])

/-- Reads on with a group under way and some padding seen. -/
def decodeFrom (g : Group) (pads : Nat) : List Char → Option (List UInt8)
  | [] => if g.count = 0 then some [] else none
  | c :: cs =>
    if c = '=' then
      if 2 ≤ g.count then
        if 4 ≤ g.count + pads + 1 then some [] else decodeFrom g (pads + 1) cs
      else decodeFrom g pads cs
    else
      match sextet? c with
      | none => decodeFrom g pads cs
      | some n =>
        let (g, bytes) := g.take n
        (decodeFrom g 0 cs).map (bytes ++ ·)

/-- The bytes written by some characters, which must be ASCII. -/
def decode (cs : List Char) : Option (List UInt8) :=
  if cs.all fun c => c.toNat < 128 then decodeFrom ⟨0, 0⟩ 0 cs else none

end LiveConfig.Yaml.Base64
