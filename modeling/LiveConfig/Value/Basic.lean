import LiveConfig.Calendar
import LiveConfig.Number.Double
import LiveConfig.Table
import LiveConfig.Text.Basic

/-!
# Configuration values

The values that layers hold.  A value can serve as a key if it has an *atom* form, a flat list
of atoms in which numbers of all kinds are written on one scale and moments with an offset on
one time line; `a == b` on values means that both have atom forms and these agree.  So `1`,
`1.0` and `true` are one key, and lists, maps and sets are never found as keys.  A not-a-number
is the same key as itself only, which its number tells.

A collection may contain itself.  Where it comes up again inside, its place only says which one
of the collections around it is meant, so that every value is finite.
-/

namespace LiveConfig

/-- The forms of collections that can contain themselves. -/
inductive CollectionForm
  | list
  | tuple
  | map
  deriving DecidableEq

/-- A configuration value. -/
inductive Value
  | null
  | bool (b : Bool)
  | int (n : Int)
  | float (x : Double)
  | str (s : Text)
  | list (items : List Value)
  | tuple (items : List Value)
  | map (entries : List (Value × Value))
  | set (members : List Value)
  | bytes (data : List UInt8)
  | date (d : Date)
  | moment (m : Moment)
  /-- The mark of a key that no longer has a value. -/
  | removed
  /-- A value that refuses to be compared: the text of the refusal, and its number. -/
  | flawed (reason : Text) (number : Nat)
  /--
  A collection around this place, which comes up again here: its form, its number, and how many
  collections lie between.
  -/
  | again (form : CollectionForm) (number : Nat) (between : Nat)
  deriving Inhabited

/-- What a value is equal to, as a key, without structure. -/
inductive Atom
  | null
  | removed
  /-- A number in units of `2 ^ (-1074)`. -/
  | number (scaled : Int)
  | infinity (negative : Bool)
  /-- A not-a-number by its number. -/
  | nan (number : Nat)
  | str (s : Text)
  | bytes (data : List UInt8)
  | date (d : Date)
  /-- The clock reading of a moment without offset. -/
  | clock (microseconds : Int)
  /-- The universal time of a moment with an offset. -/
  | instant (microseconds : Int)
  /-- The head of a tuple of `n` items. -/
  | tuple (n : Nat)
  deriving DecidableEq

namespace Value

/-- A string as a value. -/
def ofString (s : String) : Value :=
  .str s

/-- The number of units `2 ^ (-1074)` in a whole number. -/
def scaledInt (n : Int) : Int :=
  n * (twoTo 1074 : Int)

mutual

/-- The atom form of a value that can serve as a key. -/
def atoms? : Value → Option (List Atom)
  | .null => some [.null]
  | .bool b => some [.number (scaledInt (if b then 1 else 0))]
  | .int n => some [.number (scaledInt n)]
  | .float x =>
    if x.isNan then some [.nan x.nanNumber]
    else
      match x.scaled? with
      | some n => some [.number n]
      | none => some [.infinity x.negative]
  | .str s => some [.str s]
  | .tuple items => (atomsOfAll? items).map (.tuple items.length :: ·)
  | .bytes data => some [.bytes data]
  | .date d => some [.date d]
  | .moment m =>
    match m.instant? with
    | some i => some [.instant i]
    | none => some [.clock m.clock]
  | .removed => some [.removed]
  | .list _ | .map _ | .set _ | .flawed _ _ | .again _ _ _ => none

/-- The atom forms of some values, joined. -/
def atomsOfAll? : List Value → Option (List Atom)
  | [] => some []
  | x :: xs =>
    match atoms? x, atomsOfAll? xs with
    | some a, some b => some (a ++ b)
    | _, _ => none

end

mutual

/-- The first part of a value for which it cannot serve as a key: a list, a map or a set. -/
def unkeyable? : Value → Option Value
  | .tuple items => unkeyableAmong? items
  | .list items => some (.list items)
  | .map entries => some (.map entries)
  | .set members => some (.set members)
  | _ => none

/-- The same, for the first of some values that has such a part. -/
def unkeyableAmong? : List Value → Option Value
  | [] => none
  | x :: xs => (unkeyable? x).or (unkeyableAmong? xs)

end

/-- Whether two values are the same key. -/
def sameKey (a b : Value) : Bool :=
  match a.atoms?, b.atoms? with
  | some x, some y => decide (x = y)
  | _, _ => false

instance : BEq Value := ⟨sameKey⟩

theorem beq_iff_atoms {a b : Value} :
    (a == b) = true ↔ ∃ x, a.atoms? = some x ∧ b.atoms? = some x := by
  show sameKey a b = true ↔ _
  unfold sameKey
  cases a.atoms? <;> cases b.atoms? <;> simp [eq_comm]

instance : PartialEquivBEq Value where
  symm h := by
    obtain ⟨x, ha, hb⟩ := beq_iff_atoms.1 h
    exact beq_iff_atoms.2 ⟨x, hb, ha⟩
  trans h₁ h₂ := by
    obtain ⟨x, ha, hb⟩ := beq_iff_atoms.1 h₁
    obtain ⟨y, hb', hc⟩ := beq_iff_atoms.1 h₂
    have hxy : x = y := Option.some.inj (hb ▸ hb')
    exact beq_iff_atoms.2 ⟨x, ha, hxy ▸ hc⟩

@[simp]
theorem str_beq_str (s t : Text) : (Value.str s == Value.str t) = decide (s = t) := by
  show sameKey _ _ = _
  simp [sameKey, atoms?]

/-- Whether a value counts as set: everything but null, false, zero, the empty and the removed. -/
def isTruthy : Value → Bool
  | .null | .removed => false
  | .bool b => b
  | .int n => n != 0
  | .float x => x.magnitude != 0
  | .str s => !s.isEmpty
  | .list items | .tuple items | .set items => !items.isEmpty
  | .map entries => !entries.isEmpty
  | .bytes data => !data.isEmpty
  | .date _ | .moment _ | .flawed _ _ | .again _ _ _ => true

/-- Whether a value is one that a document can write without further values. -/
def isScalar : Value → Bool
  | .null | .bool _ | .int _ | .float _ | .str _ | .bytes _ | .date _ | .moment _ => true
  | _ => false

/-- A value that a document can write without further values. -/
abbrev Scalar := { v : Value // v.isScalar = true }

/-- The short name of a value's kind. -/
def kindName : Value → String
  | .null => "NoneType"
  | .bool _ => "bool"
  | .int _ => "int"
  | .float _ => "float"
  | .str _ => "str"
  | .list _ => "list"
  | .tuple _ => "tuple"
  | .map _ => "dict"
  | .set _ => "set"
  | .bytes _ => "bytes"
  | .date _ => "date"
  | .moment _ => "datetime"
  | .removed => "_RemovedType"
  | .flawed _ _ => "object"
  | .again .list _ _ => "list"
  | .again .tuple _ _ => "tuple"
  | .again .map _ _ => "dict"

/-- The full name of a value's kind. -/
def fullKindName : Value → String
  | .date _ => "datetime.date"
  | .moment _ => "datetime.datetime"
  | v => v.kindName

end Value

/-- The entries of a layer and of a snapshot. -/
abbrev Entries := Table Value Value

end LiveConfig
