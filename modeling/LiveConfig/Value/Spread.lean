import LiveConfig.Value.Basic

/-!
# Sets of numbers

A set of numbers is written in the order of places, not in the order in which its members came
up.  Each number has a first place, which its remainder by `2 ^ 61 - 1` gives.  Where that is
taken, the number goes on to the next free place nearby, and else leaps to another one.  Tuples of
numbers find places in the same way; sets with members of other kinds keep the order of their
members.

A set that is made at once (`ofMembers`) has places for all members from the start.  One that is
made member by member (`ofAdded`) starts with few places, and when three fifths of them are taken,
all members move to wider ones, in the order of the places that they leave.
-/

namespace LiveConfig.Value

/-! ## Trails -/

/-- The divisor of the remainders by which numbers are spread. -/
def spreadDivisor : Nat := twoTo 61 - 1

/-- A whole number as a word; minus one is left out and gives way to its neighbour. -/
def trailOf (n : Int) : UInt64 :=
  UInt64.ofInt (if n = -1 then -2 else n)

/--
The trail of a number, by which it is placed: its remainder, with its sign.  A number on the common
scale has units of `2 ^ (-1074)`, and as `2 ^ 61` leaves one, each unit counts as `2 ^ 24`.
-/
def numberTrail? (member : Value) : Option UInt64 :=
  match member.atoms? with
  | some [.number scaled] => some (trailOf (Int.tmod (scaled * (twoTo 24 : Nat)) spreadDivisor))
  | some [.infinity negative] => some (trailOf (if negative then -314159 else 314159))
  | _ => none

/-- What a tuple's trail starts from. -/
def tupleStart : UInt64 := 2870177450012600261

/-- Mixes the trail of one more item into that of a tuple. -/
def mixTrail (mixed trail : UInt64) : UInt64 :=
  let sum := mixed + trail * 14029467366897019727
  (sum <<< 31 ||| sum >>> 33) * 11400714785074694791

/-- The trail of a tuple, out of the trails of its items. -/
def tupleTrail (trails : List UInt64) : UInt64 :=
  let size := UInt64.ofNat trails.length ^^^ (tupleStart ^^^ 3527539)
  let trail := trails.foldl mixTrail tupleStart + size
  if trail = UInt64.ofInt (-1) then 1546275796 else trail

mutual

/-- The trail of a member, if it is a number or a tuple of such members. -/
def trail? : Value → Option UInt64
  | .tuple items => (trailsOf? items).map tupleTrail
  | v => numberTrail? v

/-- The trails of some members, if all have one. -/
def trailsOf? : List Value → Option (List UInt64)
  | [] => some []
  | x :: xs =>
    match trail? x, trailsOf? xs with
    | some t, some ts => some (t :: ts)
    | _, _ => none

end

/-! ## Places -/

/-- The least number of places of a set. -/
def leastWidth : Nat := 8

/-- The number of places that is a power of two and greater than a given number. -/
def widthAbove (n : Nat) : Nat :=
  max leastWidth (twoTo (Nat.log2 n + 1))

/-- Whether so many members are too many for so many places. -/
def isCrowded (members width : Nat) : Bool :=
  decide (3 * (width - 1) ≤ 5 * members)

/-- How many places after the first one are tried in a row, where so many follow. -/
def spreadReach : Nat := 9

/--
The first free place from a given one on, with leaps that depend on the trail of a member; the
last argument bounds the leaps.
-/
def freePlace (width : Nat) (taken : List Nat) : Nat → Nat → Nat → Nat
  | place, _, 0 => place
  | place, trail, leaps + 1 =>
    let reach := if place + spreadReach < width then spreadReach else 0
    let row := (List.range (reach + 1)).map (place + ·)
    match row.find? fun p => !taken.contains p with
    | some p => p
    | none =>
      let trail := trail / 32
      freePlace width taken ((place * 5 + 1 + trail) % width) trail leaps

/-- A member at its place. -/
structure Placed where
  place : Nat
  trail : UInt64
  member : Value

/-- Gives a member a place. -/
def putMember (width : Nat) (placed : List Placed) (trail : UInt64) (member : Value) :
    List Placed :=
  let word := trail.toNat
  ⟨freePlace width (placed.map Placed.place) (word % width) word (width + 16), trail, member⟩ ::
    placed

/-- Members in the order of their places. -/
def inPlaceOrder (placed : List Placed) : List Placed :=
  placed.mergeSort fun a b => decide (a.place ≤ b.place)

/-- Members with their trails on so many places. -/
def placeAll (width : Nat) (members : List (UInt64 × Value)) : List Placed :=
  members.foldl (fun placed m => putMember width placed m.1 m.2) []

/-- Adds a member to a set with so many places, and widens it if it is crowded then. -/
def addMember (set : Nat × List Placed) (m : UInt64 × Value) : Nat × List Placed :=
  let (width, placed) := set
  let placed := putMember width placed m.1 m.2
  if isCrowded placed.length width then
    let wider := widthAbove (4 * placed.length)
    (wider, placeAll wider ((inPlaceOrder placed).map fun p => (p.trail, p.member)))
  else (width, placed)

/-! ## Sets -/

/-- The set of some members on the places that they are given by their trails. -/
def setBy (places : List (UInt64 × Value) → List Placed) (members : List Value) : Value :=
  match trailsOf? members with
  | none => .set members
  | some trails => .set ((inPlaceOrder (places (trails.zip members))).map Placed.member)

/-- The set with the given members, no two of which are the same, made at once. -/
def ofMembers (members : List Value) : Value :=
  let count := members.length
  setBy
    (placeAll (if isCrowded count leastWidth then widthAbove (2 * count) else leastWidth)) members

/-- The set with the given members, no two of which are the same, made one by one. -/
def ofAdded (members : List Value) : Value :=
  setBy (fun members => (members.foldl addMember (leastWidth, [])).2) members

end LiveConfig.Value
