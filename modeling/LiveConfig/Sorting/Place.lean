/-!
# Places in sorted lists

How many items at the head of a list pass a test, which is answered item by item and may fail.
In a sorted list the items that pass come first, so `leading` does not ask for all of them: it
leaps ahead by growing distances and then halves what is left.  A list may be the reverse of one
that is to be searched from its end; the halves are then cut as they are in that one.
-/

namespace LiveConfig.Sorting

/-- From which end a list is worked on. -/
inductive Side
  | front
  | back
  deriving DecidableEq

/-- The place where an interval is cut in two. -/
def Side.middle : Side → Nat → Nat → Nat
  | .front, low, high => low + (high - low) / 2
  | .back, low, high => high - 1 - (high - low) / 2

theorem Side.le_middle (side : Side) {low high : Nat} (h : low < high) :
    low ≤ side.middle low high := by
  cases side <;> simp only [middle] <;> omega

theorem Side.middle_lt (side : Side) {low high : Nat} (h : low < high) :
    side.middle low high < high := by
  cases side <;> simp only [middle] <;> omega

section Place

variable {ε α : Type} (test : α → Except ε Bool)

/-- The first place of an interval whose item does not pass, found by halving. -/
def placeWithin (side : Side) (xs : List α) (low high : Nat) : Except ε Nat :=
  if _ : low < high then
    match xs[side.middle low high]? with
    | none => .ok low
    | some x =>
      match test x with
      | .error e => .error e
      | .ok true => placeWithin side xs (side.middle low high + 1) high
      | .ok false => placeWithin side xs low (side.middle low high)
  else .ok low
termination_by high - low
decreasing_by
  · have := side.le_middle ‹low < high›
    omega
  · have := side.middle_lt ‹low < high›
    omega

/-- Leaps from items that pass; gives the last one that did and the end of the last leap. -/
def leap (xs : List α) (passed next : Nat) : Except ε (Nat × Nat) :=
  if h : next < xs.length then
    match test xs[next] with
    | .error e => .error e
    | .ok true => leap xs next (2 * next + 1)
    | .ok false => .ok (passed, next)
  else .ok (passed, xs.length)
termination_by xs.length - next

/-- The number of items at the head that pass. -/
def leading (side : Side) : List α → Except ε Nat
  | [] => .ok 0
  | x :: xs => do
    if ← test x then
      let (passed, next) ← leap test (x :: xs) 0 1
      placeWithin test side (x :: xs) (passed + 1) next
    else return 0

end Place

end LiveConfig.Sorting
