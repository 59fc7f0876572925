import LiveConfig.Sorting.Place

/-!
# Runs

A run is a stretch of a list that is in order.  Items that ascend are a run as they are, and items
that strictly descend are one when they are turned round.  A run that is too short is extended:
further items are put into it one by one, each behind all items that it does not precede.
-/

namespace LiveConfig.Sorting

section Run

variable {ε α : Type} (precedes : α → α → Except ε Bool)

/-- Takes items while the answer whether each one precedes the item before it stays the same. -/
def takeRun (descending : Bool) (last : α) (run : List α) :
    List α → Except ε (List α × List α)
  | [] => .ok (run, [])
  | x :: xs => do
    if (← precedes x last) == descending then takeRun descending x (x :: run) xs
    else return (run, x :: xs)

/-- The run at the head of a list, and what follows it. -/
def firstRun : List α → Except ε (List α × List α)
  | [] => .ok ([], [])
  | [x] => .ok ([x], [])
  | x :: y :: rest => do
    let descending ← precedes y x
    let (run, rest) ← takeRun precedes descending y [y, x] rest
    return (if descending then run else run.reverse, rest)

/-- Whether an item comes before another one that is put into a run. -/
def staysBefore (item other : α) : Except ε Bool :=
  (precedes item other).map not

/-- Puts items into a run one after another. -/
def insertAll (run : List α) : List α → Except ε (List α)
  | [] => .ok run
  | x :: xs => do
    let place ← placeWithin (staysBefore precedes x) .front run 0 run.length
    insertAll (run.insertIdx place x) xs

/-- The run at the head of a list, extended to a least length, and what follows it. -/
def nextRun (least : Nat) (xs : List α) : Except ε (List α × List α) := do
  let (run, rest) ← firstRun precedes xs
  let missing := least - run.length
  return (← insertAll precedes run (rest.take missing), rest.drop missing)

end Run

end LiveConfig.Sorting
