import LiveConfig.Value.Basic

/-!
# Comparing values

`Value.equal?` compares values.  The comparison fails as soon as it reaches a flawed value, a
value that refuses to be compared.  A not-a-number is equal to nothing; but inside a collection
a not-a-number or a flawed value that stands on both sides agrees with itself unseen.

A collection that contains itself is compared as the endless value that it stands for.  So values
are compared in their places: where a collection comes up again, the comparison goes on with that
collection.  Every level takes its part of the stack.  Two values are unequal if some level down to
`comparisonLimit` tells them apart; if none does and there are more, the comparison is given up,
be the values endless or just that deep.
-/

namespace LiveConfig

namespace Value

/-- Whether two values are one that cannot be found equal to itself. -/
def isSame : Value → Value → Bool
  | .float x, .float y => x.isNan && y.isNan && x.nanNumber == y.nanNumber
  | .flawed _ m, .flawed _ n | .again _ m _, .again _ n _ => m == n
  | _, _ => false

/-- Why two values cannot be compared. -/
inductive Refusal
  /-- A flawed value refuses. -/
  | flawed (reason : Text)
  /-- Both are too deep, or endless because they contain themselves. -/
  | endless
  deriving DecidableEq

/-- The refusal of two values to be compared; the first one is asked first. -/
def refusal? : Value → Value → Option Refusal
  | .flawed reason _, _ => some (.flawed reason)
  | _, .flawed reason _ => some (.flawed reason)
  | _, _ => none

/-- Whether two values that are no collections are equal; a not-a-number is not. -/
def equalLeaves : Value → Value → Bool
  | .float x, b => !x.isNan && Value.float x == b
  | a, b => a == b

/-- Whether two sets have the same members. -/
def membersAgree (xs ys : List Value) : Bool :=
  decide (xs.length = ys.length) && xs.all fun x => ys.any (· == x)

/-! ## Places -/

/-- A value in its place: the collections around it, the innermost first. -/
structure Place where
  value : Value
  around : List Value

namespace Place

/-- The place of a value inside the collection that stands here. -/
def inside (p : Place) (v : Value) : Place :=
  ⟨v, p.value :: p.around⟩

/-- Where a collection comes up again, its own place; any other place itself. -/
def settled (p : Place) : Place :=
  match p.value with
  | .again _ _ between =>
    match p.around.drop between with
    | v :: around => ⟨v, around⟩
    | [] => p
  | _ => p

end Place

/-! ## Equality -/

/-- Compares items one by one, in their order, up to the first unequal pair. -/
def itemsAgree (agree : Value → Value → Except Refusal Bool) :
    List Value → List Value → Except Refusal Bool
  | [], [] => .ok true
  | x :: xs, y :: ys =>
    match agree x y with
    | .ok true => itemsAgree agree xs ys
    | other => other
  | _, _ => .ok false

/-- Looks every entry up among others and compares, in the order of the entries. -/
def entriesAgree (agree : Value → Value → Except Refusal Bool) :
    List (Value × Value) → List (Value × Value) → Except Refusal Bool
  | [], _ => .ok true
  | (k, x) :: es, fs =>
    match firstValue? k fs with
    | none => .ok false
    | some y =>
      match agree x y with
      | .ok true => entriesAgree agree es fs
      | other => other

/--
Compares two values, given how values inside of them compare.  Lists of different length are
unequal unseen, tuples are compared item by item, and maps entry by entry in the order of the
first one.
-/
def valuesAgree (agree : Value → Value → Except Refusal Bool) (a b : Value) :
    Except Refusal Bool :=
  match refusal? a b with
  | some refusal => .error refusal
  | none =>
    match a, b with
    | .list xs, .list ys => if xs.length = ys.length then itemsAgree agree xs ys else .ok false
    | .tuple xs, .tuple ys => itemsAgree agree xs ys
    | .map es, .map fs => if es.length = fs.length then entriesAgree agree es fs else .ok false
    | .set xs, .set ys => .ok (membersAgree xs ys)
    | a, b => .ok (equalLeaves a b)

/-- Compares the values in two places down to a level, or fails. -/
def agreeWithin : Nat → Place → Place → Except Refusal Bool
  | 0, _, _ => .error .endless
  | levels + 1, a, b =>
    let a := a.settled
    let b := b.settled
    valuesAgree
      (fun x y =>
        if isSame x y then .ok true else agreeWithin levels (a.inside x) (b.inside y))
      a.value b.value

/-- The level below which values are not compared: the stack has no room for more. -/
def comparisonLimit : Nat := 985

/-- Whether two values are equal, or the reason why they cannot be compared. -/
def equal? (a b : Value) : Except Refusal Bool :=
  agreeWithin comparisonLimit ⟨a, []⟩ ⟨b, []⟩

end Value

end LiveConfig
