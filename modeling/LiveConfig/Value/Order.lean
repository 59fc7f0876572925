import LiveConfig.Failure
import LiveConfig.Sorting

/-!
# The order of keys

Numbers of all kinds are ordered among each other, and so are texts, bytes, dates, moments with
an offset and moments without one.  Keys of different kinds cannot be ordered.  A not-a-number is
a number that comes neither before nor behind another one.
-/

namespace LiveConfig.Value

/-- What keys are ordered by, for those that can be. -/
inductive Rank
  | nan
  | number (scaled : Int)
  | text (t : Text)
  | bytes (data : List Nat)
  | day (ordinal : Nat)
  | clock (microseconds : Int)
  | instant (microseconds : Int)

/-- The rank of a double; infinities lie beyond all other numbers. -/
def doubleRank (x : Double) : Rank :=
  let beyond := scaledInt (twoTo 1024)
  if x.isNan then .nan
  else .number (x.scaled?.getD (if x.negative then -beyond else beyond))

/-- The rank of a key. -/
def rank? : Value → Option Rank
  | .bool b => some (.number (scaledInt (if b then 1 else 0)))
  | .int n => some (.number (scaledInt n))
  | .float x => some (doubleRank x)
  | .str s => some (.text s)
  | .bytes data => some (.bytes (data.map UInt8.toNat))
  | .date d => some (.day d.ordinal)
  | .moment m =>
    match m.instant? with
    | some i => some (.instant i)
    | none => some (.clock m.clock)
  | _ => none

/-- Whether a rank comes before another one, if they are of one kind. -/
def Rank.before? : Rank → Rank → Option Bool
  | .nan, .nan | .nan, .number _ | .number _, .nan => some false
  | .number a, .number b => some (decide (a < b))
  | .text a, .text b => some (a.isBefore b)
  | .bytes a, .bytes b => some (decide (a < b))
  | .day a, .day b => some (decide (a < b))
  | .clock a, .clock b => some (decide (a < b))
  | .instant a, .instant b => some (decide (a < b))
  | _, _ => none

/-- Why two keys cannot be ordered. -/
def disorder (a b : Value) : Misuse :=
  match a, b with
  | .date _, .moment _ | .moment _, .date _ => .unorderedDates
  | .moment _, .moment _ => .unorderedClocks
  | a, b => .unordered a.fullKindName b.fullKindName

/-- Whether a key comes before another one, or why that cannot be told. -/
def precedes? (a b : Value) : Except Misuse Bool :=
  match a.rank?, b.rank? with
  | some r, some s =>
    match r.before? s with
    | some answer => .ok answer
    | none => .error (disorder a b)
  | _, _ => .error (disorder a b)

/-- Keys in their order; keys of which some cannot be ordered stand in the order of their texts. -/
def sortedKeys (keys : List Value) : List Value :=
  match sortBy precedes? keys with
  | .ok sorted => sorted
  | .error _ => keys.mergeSort fun a b => !b.display.isBefore a.display

end LiveConfig.Value
