import LiveConfig.Sorting.Merge

/-!
# Sorting by comparisons that may fail

`sortBy` is a stable sort.  The list is cut into runs, which are merged as they come up: the
boundary between two runs has a *power*, its depth in a binary tree over the whole list in which
boundaries near the middle lie high, and deeper boundaries are merged away first.

Any other stable sort gives the same list if the comparison is an order that never fails.  Here
it may fail on some pairs, and not-a-numbers precede nothing and follow nothing, so that the order
of the comparisons decides which failure is met and where such items end up.
-/

namespace LiveConfig

namespace Sorting

/-- A run that waits to be merged, and the power of the boundary behind it. -/
structure Waiting (α : Type) where
  items : List α
  power : Nat

/-- The runs found so far, those before the last one from the last to the first, and patience. -/
structure Found (α : Type) where
  last : List α
  waiting : List (Waiting α)
  patience : Nat

/-- Halves a length until it is small, and adds one if some half was rounded down. -/
def halveLength (rounded : Bool) (n : Nat) : Nat :=
  if 64 ≤ n then halveLength (rounded || n % 2 == 1) (n / 2) else n + rounded.toNat
termination_by n

/-- The least length of the runs of a list of `n` items; a small list is one run. -/
def leastLength (n : Nat) : Nat :=
  halveLength false n

/--
The number of binary digits after which `low / n` and `high / n` differ, where both are below two
and at most so many digits are compared.
-/
def differingDigit (n : Nat) : Nat → Nat → Nat → Nat
  | 0, _, _ => 0
  | digits + 1, low, high =>
    if n ≤ low then 1 + differingDigit n digits (2 * (low - n)) (2 * (high - n))
    else if n ≤ high then 1
    else 1 + differingDigit n digits (2 * low) (2 * high)

/-- The power of the boundary between two runs in a list of `n` items: the middles are compared. -/
def boundaryPower (n start first second : Nat) : Nat :=
  let middle := 2 * start + first
  differingDigit n n middle (middle + first + second)

/-- The number of items that wait. -/
def waitingLength {α : Type} (waiting : List (Waiting α)) : Nat :=
  waiting.foldl (fun n w => n + w.items.length) 0

section Sorting

variable {ε α : Type} (precedes : α → α → Except ε Bool)

/-- Merges the last run with those before it, up to a boundary that is no deeper than a power. -/
def mergeDeeper (power patience : Nat) (last : List α) :
    List (Waiting α) → Except ε (Found α)
  | [] => .ok ⟨last, [], patience⟩
  | w :: rest => do
    if power < w.power then
      let (merged, patience) ← mergeRuns precedes patience w.items last
      mergeDeeper power patience merged rest
    else return ⟨last, w :: rest, patience⟩

/-- Adds a run to those found in a list of `n` items. -/
def Found.add (n : Nat) (found : Found α) (run : List α) : Except ε (Found α) := do
  let start := waitingLength found.waiting
  let power := boundaryPower n start found.last.length run.length
  let found ← mergeDeeper precedes power found.patience found.last found.waiting
  return ⟨run, ⟨found.last, power⟩ :: found.waiting, found.patience⟩

/-- Merges all runs, given from the last to the first; a short one goes with its neighbour first. -/
def mergeAll (patience : Nat) : List (List α) → Except ε (List α)
  | [] => .ok []
  | [z] => .ok z
  | [z, y] => (mergeRuns precedes patience y z).map Prod.fst
  | z :: y :: x :: rest => do
    if x.length < z.length then
      let (merged, patience) ← mergeRuns precedes patience x y
      mergeAll patience (z :: merged :: rest)
    else
      let (merged, patience) ← mergeRuns precedes patience y z
      mergeAll patience (merged :: x :: rest)
termination_by runs => runs.length

/-- Finds at most so many runs in what is left of a list of `n` items, and merges them all. -/
def sortRest (n : Nat) : Nat → Found α → List α → Except ε (List α)
  | runs + 1, found, x :: xs => do
    let (run, rest) ← nextRun precedes (leastLength n) (x :: xs)
    sortRest n runs (← found.add precedes n run) rest
  | _, found, _ =>
    mergeAll precedes found.patience (found.last :: found.waiting.map Waiting.items)

end Sorting

end Sorting

/-- The items in order, or the first failure that is met on the way. -/
def sortBy {ε α : Type} (precedes : α → α → Except ε Bool) (xs : List α) :
    Except ε (List α) := do
  let n := xs.length
  let (run, rest) ← Sorting.nextRun precedes (Sorting.leastLength n) xs
  Sorting.sortRest precedes n n ⟨run, [], Sorting.worthwhile⟩ rest

end LiveConfig
