import LiveConfig.Text.Basic

/-!
# UTF-8

`Utf8.decode` reads bytes as UTF-8 and reports the first fault with the range of bytes it
concerns: a byte that starts no character, a byte that does not continue the character begun
before it, or an end in the middle of a character.  Overlong forms, surrogates and numbers
above the last code point are refused at their second byte.

Surrogates cannot be written in UTF-8; `Utf8.unwritable?` finds the first of a text.  Names of
files and variables are bytes: `Utf8.encodeName?` takes some of the surrogates for single bytes,
and `Utf8.decodeName` gives bytes that belong to no character back as such.
-/

namespace LiveConfig.Text.Utf8

/-- What is wrong with the bytes. -/
inductive Cause
  | invalidStart
  | invalidContinuation
  | unexpectedEnd
  deriving DecidableEq

/-- A fault and the bytes it concerns: the first one's value, its position, and their number. -/
structure Fault where
  cause : Cause
  byte : UInt8
  position : Nat
  length : Nat
  deriving DecidableEq

/-- How a character begins: how many bytes follow and which values the next one may have. -/
structure Lead where
  following : Nat
  bits : Nat
  low : Nat
  high : Nat

/-- What a first byte of 128 or above announces. -/
def lead? (b : Nat) : Option Lead :=
  if 0xc2 ≤ b ∧ b < 0xe0 then some ⟨1, b - 0xc0, 0x80, 0xbf⟩
  else if b = 0xe0 then some ⟨2, 0, 0xa0, 0xbf⟩
  else if b = 0xed then some ⟨2, 0xd, 0x80, 0x9f⟩
  else if 0xe1 ≤ b ∧ b < 0xf0 then some ⟨2, b - 0xe0, 0x80, 0xbf⟩
  else if b = 0xf0 then some ⟨3, 0, 0x90, 0xbf⟩
  else if b = 0xf4 then some ⟨3, 4, 0x80, 0x8f⟩
  else if 0xf1 ≤ b ∧ b < 0xf4 then some ⟨3, b - 0xf0, 0x80, 0xbf⟩
  else none

/-- What is still missing of a character, or nothing between characters. -/
structure Pending where
  first : UInt8
  start : Nat
  read : Nat
  missing : Nat
  bits : Nat
  low : Nat
  high : Nat

/-- Reads bytes from a position on, with a character possibly begun; `done` is reversed. -/
def run (done : List Char) : Nat → Option Pending → List UInt8 → Except Fault (List Char)
  | _, none, [] => .ok done.reverse
  | _, some p, [] => .error ⟨.unexpectedEnd, p.first, p.start, p.read⟩
  | i, none, b :: bs =>
    if b.toNat < 0x80 then run (Char.ofNat b.toNat :: done) (i + 1) none bs
    else
      match lead? b.toNat with
      | none => .error ⟨.invalidStart, b, i, 1⟩
      | some l => run done (i + 1) (some ⟨b, i, 1, l.following, l.bits, l.low, l.high⟩) bs
  | i, some p, b :: bs =>
    if p.low ≤ b.toNat ∧ b.toNat ≤ p.high then
      let bits := p.bits * 64 + b.toNat % 64
      if p.missing ≤ 1 then run (Char.ofNat bits :: done) (i + 1) none bs
      else
        let p : Pending := ⟨p.first, p.start, p.read + 1, p.missing - 1, bits, 0x80, 0xbf⟩
        run done (i + 1) (some p) bs
    else .error ⟨.invalidContinuation, p.first, p.start, p.read⟩

/-- The characters written by some bytes. -/
def decode (bytes : List UInt8) : Except Fault (List Char) :=
  run [] 0 none bytes

/-- Surrogates that follow one another: the number of the first, its position, and how many. -/
structure Surrogates where
  number : Nat
  position : Nat
  length : Nat
  deriving DecidableEq

/-- The surrogates from the first bad one on, counting from a position. -/
def surrogatesFrom? (isBad : CodePoint → Bool) (position : Nat) :
    List CodePoint → Option Surrogates
  | [] => none
  | p :: rest =>
    if isBad p then
      some ⟨p.number, position, (rest.takeWhile CodePoint.isSurrogate).length + 1⟩
    else surrogatesFrom? isBad (position + 1) rest

/-- The first surrogates of a text, which keep it from being written. -/
def unwritable? (t : Text) : Option Surrogates :=
  surrogatesFrom? CodePoint.isSurrogate 0 t.points

/-! ## Names in bytes -/

/-- The bytes of a code point in a name: the surrogates from U+DC80 to U+DCFF are one byte each. -/
def encodePoint? : CodePoint → Option (List UInt8)
  | .char c => some (String.utf8EncodeChar c)
  | .surrogate n => if 0x480 ≤ n.val ∧ n.val < 0x500 then some [UInt8.ofNat n.val] else none

/-- The bytes of a name, if it has no other surrogates. -/
def encodeName? (t : Text) : Option (List UInt8) :=
  (t.points.mapM encodePoint?).map List.flatten

/-- The surrogates of a name from the first one on that is no byte. -/
def unnameable? (t : Text) : Option Surrogates :=
  surrogatesFrom? (fun p => (encodePoint? p).isNone) 0 t.points

/-- A byte that belongs to no character, as a code point of a name. -/
def loneByte (b : UInt8) : CodePoint :=
  .ofNumber (0xdc00 + b.toNat)

/-- The character that some bytes start with, and the bytes behind it. -/
def firstChar? (bytes : List UInt8) : Option (Char × List UInt8) :=
  [1, 2, 3, 4].findSome? fun n =>
    match decode (bytes.take n) with
    | .ok [c] => some (c, bytes.drop n)
    | _ => none

/-- The name that some bytes are, given a bound for their number. -/
def decodeNameWithin : Nat → List UInt8 → List CodePoint
  | n + 1, b :: bs =>
    match firstChar? (b :: bs) with
    | some (c, rest) => .char c :: decodeNameWithin n rest
    | none => loneByte b :: decodeNameWithin n bs
  | _, _ => []

/-- The name that some bytes are; a byte that belongs to no character is a surrogate. -/
def decodeName (bytes : List UInt8) : Text :=
  ⟨decodeNameWithin bytes.length bytes⟩

/-- A name as it is read back from its bytes; one that has none stays. -/
def readBack (t : Text) : Text :=
  ((encodeName? t).map decodeName).getD t

end LiveConfig.Text.Utf8
