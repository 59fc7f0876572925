import LiveConfig.Sorting.Run

/-!
# Merging two runs

Two runs that follow one another are merged.  Items at the beginning of the first run and at the
end of the second one that are in place already are left alone, and the rest is merged from the
side of the shorter run.  Items are taken one by one until one of the runs has won as often in a
row as the *patience* says; then they are looked for by leaps as long as that pays.  Patience
grows when leaps end, and shrinks while they go on.
-/

namespace LiveConfig.Sorting

section Merge

variable {ε α : Type} (precedes : α → α → Except ε Bool)

/-- Whether an item of the first run is taken before one of the second, working on a side. -/
def takesFirst (side : Side) (a b : α) : Except ε Bool :=
  match side with
  | .front => staysBefore precedes b a
  | .back => precedes b a

/--
What is left of two runs in its order, if that is known without a comparison: one of them is
used up, or the shorter one has kept a single item, which is taken last.
-/
def settled? : Side → List α → List α → Option (List α)
  | _, as, [] => some as
  | _, [], bs => some bs
  | .front, [a], bs => some (bs ++ [a])
  | .back, as, [b] => some (as ++ [b])
  | _, _, _ => none

/-- The number of items found by a leap that makes up for its cost. -/
def worthwhile : Nat := 7

/-- Less patience, but some. -/
def impatient (patience : Nat) : Nat :=
  if 1 < patience then patience - 1 else patience

mutual

/--
Takes items one by one behind those of `done`, which are in reverse; gives all items and the
patience at the end.  The counts tell how often in a row each run has won.
-/
def mergeSingly (side : Side) (patience firstCount secondCount : Nat) (done : List α) :
    List α → List α → Except ε (List α × Nat)
  | a :: as, b :: bs => do
    if ← takesFirst precedes side a b then
      match settled? side as (b :: bs) with
      | some rest => return (done.reverse ++ a :: rest, patience)
      | none =>
        if patience ≤ firstCount + 1 then mergeLeaping side patience (a :: done) as (b :: bs)
        else mergeSingly side patience (firstCount + 1) 0 (a :: done) as (b :: bs)
    else
      match settled? side (a :: as) bs with
      | some rest => return (done.reverse ++ b :: rest, patience)
      | none =>
        if patience ≤ secondCount + 1 then mergeLeaping side patience (b :: done) (a :: as) bs
        else mergeSingly side patience 0 (secondCount + 1) (b :: done) (a :: as) bs
  | as, bs => return (done.reverse ++ as ++ bs, patience)
termination_by as bs => as.length + bs.length

/--
Takes what a leap finds in the first run and an item of the second one, then what a leap finds in
the second run and an item of the first one.
-/
def mergeLeaping (side : Side) (patience : Nat) (done : List α) :
    List α → List α → Except ε (List α × Nat)
  | as, b :: bs => do
    let m ← leading (fun a => takesFirst precedes side a b) side as
    let done := (as.take m).reverse ++ done
    match settled? side (as.drop m) (b :: bs), settled? side (as.drop m) bs with
    | some rest, _ => return (done.reverse ++ rest, patience)
    | none, some rest => return (done.reverse ++ b :: rest, patience)
    | none, none =>
      match hm : as.drop m with
      | [] => return (done.reverse ++ b :: bs, patience)
      | a :: as' => do
        let n ← leading (fun b => (takesFirst precedes side a b).map not) side bs
        let done := (bs.take n).reverse ++ b :: done
        match settled? side (a :: as') (bs.drop n), settled? side as' (bs.drop n) with
        | some rest, _ => return (done.reverse ++ rest, patience)
        | none, some rest => return (done.reverse ++ a :: rest, patience)
        | none, none =>
          have : as'.length < as.length := by
            have := congrArg List.length hm
            simp only [List.length_drop, List.length_cons] at this
            omega
          if worthwhile ≤ m ∨ worthwhile ≤ n then
            mergeLeaping side (impatient patience) (a :: done) as' (bs.drop n)
          else mergeSingly side (patience + 1) 0 0 (a :: done) as' (bs.drop n)
  | as, [] => return (done.reverse ++ as, patience)
termination_by as bs => as.length + bs.length

end

/-- Merges two runs; the last item of the first and the first of the second are misplaced. -/
def mergeMisplaced (patience : Nat) (as bs : List α) : Except ε (List α × Nat) := do
  if as.length ≤ bs.length then
    match bs with
    | [] => return (as, patience)
    | b :: bs =>
      match settled? .front as bs with
      | some rest => return (b :: rest, patience)
      | none => mergeSingly precedes .front patience 0 0 [b] as bs
  else
    match as.reverse with
    | [] => return (bs, patience)
    | a :: as => do
      let (merged, patience) ←
        match settled? .back as bs.reverse with
        | some rest => pure (a :: rest, patience)
        | none => mergeSingly precedes .back patience 0 0 [a] as bs.reverse
      return (merged.reverse, patience)

/-- Merges two runs; gives the patience for the next merge as well. -/
def mergeRuns (patience : Nat) (as bs : List α) : Except ε (List α × Nat) := do
  match bs.head?, as.getLast? with
  | some first, some last =>
    let m ← leading (staysBefore precedes first) .front as
    if m = as.length then return (as ++ bs, patience)
    let n ← leading (fun b => staysBefore precedes b last) .back bs.reverse
    if n = bs.length then return (as ++ bs, patience)
    let kept := bs.length - n
    let (merged, patience) ← mergeMisplaced precedes patience (as.drop m) (bs.take kept)
    return (as.take m ++ merged ++ bs.drop kept, patience)
  | _, _ => return (as ++ bs, patience)

end Merge

end LiveConfig.Sorting
