import LiveConfig.Proofs.Failing
import LiveConfig.Value.Order
import Mathlib.Data.List.Perm.Basic

/-!
# Sorting keeps all items

Whatever the comparison says, a sort that does not fail gives the items of its list, each as often
as before.  Every step of the sort only moves items: those that find runs, those that merge two
runs, and those that choose which runs are merged next.

**Results.**
* `Sorting.perm_nextRun`, `Sorting.perm_mergeRuns`: finding a run and merging two runs.
* `perm_sortBy`: the whole sort.
* `Value.perm_sortedKeys`: sorted keys are the keys that were to be sorted.
-/

namespace LiveConfig

namespace Sorting

variable {ε α : Type} {precedes : α → α → Except ε Bool}

/-! ## Finding runs -/

theorem perm_takeRun
    {descending : Bool} {last : α} {run xs found rest : List α}
    (h : takeRun precedes descending last run xs = .ok (found, rest)) :
    (found ++ rest).Perm (run ++ xs) ∧ run.length ≤ found.length := by
  induction xs generalizing last run with
  | nil =>
    obtain ⟨rfl, rfl⟩ := Prod.mk.inj (Except.ok.inj h)
    exact ⟨.refl _, Nat.le_refl _⟩
  | cons x xs ih =>
    obtain ⟨answer, -, hrest⟩ := exists_ok_of_bind h
    split at hrest
    · obtain ⟨hperm, hlength⟩ := ih hrest
      exact ⟨hperm.trans List.perm_middle.symm, Nat.le_of_succ_le hlength⟩
    · obtain ⟨rfl, rfl⟩ := Prod.mk.inj (Except.ok.inj hrest)
      exact ⟨.refl _, Nat.le_refl _⟩

/-- The run at the head of a list and what is left are the list; the run takes something of it. -/
theorem perm_firstRun
    {xs run rest : List α} (h : firstRun precedes xs = .ok (run, rest)) :
    (run ++ rest).Perm xs ∧ (xs ≠ [] → run ≠ []) := by
  match xs with
  | [] =>
    obtain ⟨rfl, rfl⟩ := Prod.mk.inj (Except.ok.inj h)
    exact ⟨.refl _, fun hne => absurd rfl hne⟩
  | [x] =>
    obtain ⟨rfl, rfl⟩ := Prod.mk.inj (Except.ok.inj h)
    exact ⟨.refl _, fun _ => List.cons_ne_nil _ _⟩
  | x :: y :: ys =>
    obtain ⟨descending, -, htake⟩ := exists_ok_of_bind h
    obtain ⟨⟨found, left⟩, hfound, hpair⟩ := exists_ok_of_bind htake
    obtain ⟨rfl, rfl⟩ := Prod.mk.inj (Except.ok.inj hpair)
    obtain ⟨hperm, hlength⟩ := perm_takeRun hfound
    have hrun : (if descending then found else found.reverse).Perm found := by
      split
      · exact .refl _
      · exact List.reverse_perm found
    refine ⟨(hrun.append_right left).trans (hperm.trans (.swap x y ys)), fun _ hnil => ?_⟩
    have hzero : found.length = 0 := by rw [← hrun.length_eq, hnil]; rfl
    rw [hzero] at hlength
    cases hlength

/-- A place that is found in an interval lies in it or at its end. -/
theorem placeWithin_le
    {test : α → Except ε Bool} {side : Side} {xs : List α} {low high place : Nat}
    (hle : low ≤ high) (h : placeWithin test side xs low high = .ok place) : place ≤ high := by
  induction low, high using placeWithin.induct test side xs with
  | case1 low high hlt hnone =>
    rw [placeWithin, dif_pos hlt, hnone] at h
    exact Except.ok.inj h ▸ hle
  | case2 low high hlt x hx failure hfails =>
    rw [placeWithin, dif_pos hlt, hx] at h
    simp only [hfails] at h
    cases h
  | case3 low high hlt x hx hpasses ih =>
    rw [placeWithin, dif_pos hlt, hx] at h
    simp only [hpasses] at h
    exact ih (side.middle_lt hlt) h
  | case4 low high hlt x hx hfails ih =>
    rw [placeWithin, dif_pos hlt, hx] at h
    simp only [hfails] at h
    exact Nat.le_trans (ih (side.le_middle hlt) h) (Nat.le_of_lt (side.middle_lt hlt))
  | case5 low high hge =>
    rw [placeWithin, dif_neg hge] at h
    exact Except.ok.inj h ▸ hle

theorem perm_insertAll
    {run xs result : List α} (h : insertAll precedes run xs = .ok result) :
    result.Perm (run ++ xs) := by
  induction xs generalizing run with
  | nil =>
    obtain rfl := Except.ok.inj h
    rw [List.append_nil]
  | cons x xs ih =>
    obtain ⟨place, hplace, hrest⟩ := exists_ok_of_bind h
    have hinserted : (run.insertIdx place x).Perm (x :: run) :=
      List.perm_insertIdx x run (placeWithin_le (Nat.zero_le _) hplace)
    exact (ih hrest).trans ((hinserted.append_right xs).trans List.perm_middle.symm)

/-- A run that was found and what is left are the list, and less is left than there was. -/
theorem perm_nextRun
    {least : Nat} {xs run rest : List α} (h : nextRun precedes least xs = .ok (run, rest)) :
    (run ++ rest).Perm xs ∧ (xs ≠ [] → rest.length < xs.length) := by
  obtain ⟨⟨first, left⟩, hfirst, hinsert⟩ := exists_ok_of_bind h
  obtain ⟨extended, hextended, hpair⟩ := exists_ok_of_bind hinsert
  obtain ⟨rfl, rfl⟩ := Prod.mk.inj (Except.ok.inj hpair)
  obtain ⟨hperm, hne⟩ := perm_firstRun hfirst
  have hrun := perm_insertAll hextended
  have hall : (extended ++ left.drop (least - first.length)).Perm xs := by
    refine (hrun.append_right _).trans ?_
    rwa [List.append_assoc, List.take_append_drop]
  refine ⟨hall, fun hxs => ?_⟩
  have hpos := List.length_pos_iff.mpr (hne hxs)
  have hlengths := hperm.length_eq
  rw [List.length_append] at hlengths
  rw [List.length_drop]
  omega

/-! ## Merging two runs -/

theorem perm_settled?
    {side : Side} {as bs rest : List α} (h : settled? side as bs = some rest) :
    rest.Perm (as ++ bs) := by
  unfold settled? at h
  split at h
  · obtain rfl := Option.some.inj h
    rw [List.append_nil]
  · obtain rfl := Option.some.inj h
    rfl
  · obtain rfl := Option.some.inj h
    exact List.perm_append_comm
  · obtain rfl := Option.some.inj h
    rfl
  · cases h

section Merging

variable {side : Side} {done as bs merged rest : List α} {a b : α} {m : Nat}

/-- Items that are done in reverse are all there, with what comes behind them. -/
theorem perm_done {ys : List α} (h : rest.Perm ys) : (done.reverse ++ rest).Perm (done ++ ys) :=
  (List.reverse_perm done).append h

/-- The first item of the first run may be done next. -/
theorem perm_first (h : merged.Perm (a :: done ++ (as ++ bs))) :
    merged.Perm (done ++ (a :: as ++ bs)) :=
  h.trans List.perm_middle.symm

/-- The first item of the second run may be done next. -/
theorem perm_second (h : merged.Perm (b :: done ++ (as ++ bs))) :
    merged.Perm (done ++ (as ++ b :: bs)) :=
  h.trans (List.perm_middle.symm.trans (List.perm_middle.symm.append_left done))

/-- Some items at the head of the first run may be done next. -/
theorem perm_leapFirst
    (h : merged.Perm ((as.take m).reverse ++ done ++ (as.drop m ++ bs))) :
    merged.Perm (done ++ (as ++ bs)) := by
  refine h.trans ?_
  calc (as.take m).reverse ++ done ++ (as.drop m ++ bs)
    List.Perm _ (as.take m ++ done ++ (as.drop m ++ bs)) :=
      ((List.reverse_perm _).append_right done).append_right _
    List.Perm _ (done ++ as.take m ++ (as.drop m ++ bs)) :=
      List.perm_append_comm.append_right _
    _ = done ++ (as ++ bs) := by
      rw [List.append_assoc, ← List.append_assoc (as.take m), List.take_append_drop]

/-- Some items at the head of the second run may be done next. -/
theorem perm_leapSecond
    (h : merged.Perm ((bs.take m).reverse ++ done ++ (as ++ bs.drop m))) :
    merged.Perm (done ++ (as ++ bs)) := by
  have hswap : merged.Perm ((bs.take m).reverse ++ done ++ (bs.drop m ++ as)) :=
    h.trans (List.perm_append_comm.append_left _)
  exact (perm_leapFirst hswap).trans (List.perm_append_comm.append_left done)

end Merging

/-- Merging fewer than so many items, item by item or by leaps, keeps all of them. -/
structure MergesAllBelow (precedes : α → α → Except ε Bool) (n : Nat) : Prop where
  singly {side : Side} {patience patience' firstCount secondCount : Nat}
    {done as bs merged : List α} : as.length + bs.length < n →
    mergeSingly precedes side patience firstCount secondCount done as bs =
      .ok (merged, patience') →
    merged.Perm (done ++ (as ++ bs))
  leaping {side : Side} {patience patience' : Nat} {done as bs merged : List α} :
    as.length + bs.length < n →
    mergeLeaping precedes side patience done as bs = .ok (merged, patience') →
    merged.Perm (done ++ (as ++ bs))

namespace MergesAllBelow

variable {n : Nat} {side : Side} {patience patience' firstCount secondCount : Nat}
  {done as bs merged : List α}

theorem perm_mergeSingly
    (hbelow : MergesAllBelow precedes n) (hn : as.length + bs.length ≤ n)
    (h : mergeSingly precedes side patience firstCount secondCount done as bs =
      .ok (merged, patience')) :
    merged.Perm (done ++ (as ++ bs)) := by
  match as, bs with
  | [], bs =>
    rw [mergeSingly] at h
    · obtain ⟨rfl, -⟩ := Prod.mk.inj (Except.ok.inj h)
      simpa using perm_done (.refl bs)
    · simp
  | a :: as, [] =>
    rw [mergeSingly] at h
    · obtain ⟨rfl, -⟩ := Prod.mk.inj (Except.ok.inj h)
      simpa using perm_done (.refl (a :: as))
    · simp
  | a :: as, b :: bs =>
    rw [mergeSingly] at h
    simp only [List.length_cons] at hn
    have hfirst : as.length + (b :: bs).length < n := by
      rw [List.length_cons]
      omega
    have hsecond : (a :: as).length + bs.length < n := by
      rw [List.length_cons]
      omega
    obtain ⟨answer, -, h⟩ := exists_ok_of_bind h
    cases answer with
    | true =>
      simp only [if_true] at h
      split at h
      · rename_i rest hsettled
        obtain ⟨rfl, -⟩ := Prod.mk.inj (Except.ok.inj h)
        exact perm_done ((perm_settled? hsettled).cons a)
      · split at h
        · exact perm_first (hbelow.leaping hfirst h)
        · exact perm_first (hbelow.singly hfirst h)
    | false =>
      simp only [Bool.false_eq_true, if_false] at h
      split at h
      · rename_i rest hsettled
        obtain ⟨rfl, -⟩ := Prod.mk.inj (Except.ok.inj h)
        exact perm_done (((perm_settled? hsettled).cons b).trans List.perm_middle.symm)
      · split at h
        · exact perm_second (hbelow.leaping hsecond h)
        · exact perm_second (hbelow.singly hsecond h)

theorem perm_mergeLeaping
    (hbelow : MergesAllBelow precedes n) (hn : as.length + bs.length ≤ n)
    (h : mergeLeaping precedes side patience done as bs = .ok (merged, patience')) :
    merged.Perm (done ++ (as ++ bs)) := by
  match bs with
  | [] =>
    rw [mergeLeaping] at h
    obtain ⟨rfl, -⟩ := Prod.mk.inj (Except.ok.inj h)
    simpa using perm_done (.refl as)
  | b :: bs =>
    rw [mergeLeaping] at h
    obtain ⟨m, -, h⟩ := exists_ok_of_bind h
    refine perm_leapFirst (m := m) ?_
    have hlength := List.length_drop (i := m) (l := as)
    rw [List.length_cons] at hn
    generalize (as.take m).reverse ++ done = done at h ⊢
    split at h
    · rename_i rest hsettled
      obtain ⟨rfl, -⟩ := Prod.mk.inj (Except.ok.inj h)
      exact perm_done (perm_settled? hsettled)
    · rename_i rest hsettled
      obtain ⟨rfl, -⟩ := Prod.mk.inj (Except.ok.inj h)
      exact perm_done (((perm_settled? hsettled).cons b).trans List.perm_middle.symm)
    · split at h
      · rename_i hm
        obtain ⟨rfl, -⟩ := Prod.mk.inj (Except.ok.inj h)
        rw [hm]
        exact perm_done (.refl _)
      · rename_i a as' hm
        rw [hm] at hlength ⊢
        rw [List.length_cons] at hlength
        obtain ⟨k, -, h⟩ := exists_ok_of_bind h
        refine perm_second (perm_leapSecond (m := k) ?_)
        have hrest := List.length_drop (i := k) (l := bs)
        have hless : as'.length + (bs.drop k).length < n := by omega
        generalize (bs.take k).reverse ++ b :: done = done at h ⊢
        split at h
        · rename_i rest hsettled
          obtain ⟨rfl, -⟩ := Prod.mk.inj (Except.ok.inj h)
          exact perm_done (perm_settled? hsettled)
        · rename_i rest hsettled
          obtain ⟨rfl, -⟩ := Prod.mk.inj (Except.ok.inj h)
          exact perm_done ((perm_settled? hsettled).cons a)
        · split at h
          · exact perm_first (hbelow.leaping hless h)
          · exact perm_first (hbelow.singly hless h)

end MergesAllBelow

/-- Both ways to merge keep all items, by induction on a bound for the number of those left. -/
theorem mergesAllBelow (n : Nat) : MergesAllBelow precedes n := by
  induction n with
  | zero => exact ⟨fun h => absurd h (Nat.not_lt_zero _), fun h => absurd h (Nat.not_lt_zero _)⟩
  | succ n ih =>
    exact ⟨fun hn h => ih.perm_mergeSingly (Nat.le_of_lt_succ hn) h,
      fun hn h => ih.perm_mergeLeaping (Nat.le_of_lt_succ hn) h⟩

theorem perm_mergeSingly
    {side : Side} {patience patience' firstCount secondCount : Nat} {done as bs merged : List α}
    (h : mergeSingly precedes side patience firstCount secondCount done as bs =
      .ok (merged, patience')) :
    merged.Perm (done ++ (as ++ bs)) :=
  (mergesAllBelow _).singly (Nat.lt_succ_self _) h

theorem perm_mergeMisplaced
    {patience patience' : Nat} {as bs merged : List α}
    (h : mergeMisplaced precedes patience as bs = .ok (merged, patience')) :
    merged.Perm (as ++ bs) := by
  unfold mergeMisplaced at h
  split at h
  · split at h
    · obtain ⟨rfl, -⟩ := Prod.mk.inj (Except.ok.inj h)
      rw [List.append_nil]
    · split at h
      · rename_i rest hsettled
        obtain ⟨rfl, -⟩ := Prod.mk.inj (Except.ok.inj h)
        exact ((perm_settled? hsettled).cons _).trans List.perm_middle.symm
      · exact perm_second (perm_mergeSingly h)
  · split at h
    · rename_i hnil
      obtain ⟨rfl, -⟩ := Prod.mk.inj (Except.ok.inj h)
      rw [List.reverse_eq_nil_iff.mp hnil, List.nil_append]
    · rename_i a rest hreverse
      have hboth : (as.reverse ++ bs.reverse).Perm (as ++ bs) :=
        (List.reverse_perm as).append (List.reverse_perm bs)
      rw [hreverse] at hboth
      split at h
      · rename_i settled hsettled
        obtain ⟨rfl, -⟩ := Prod.mk.inj (Except.ok.inj h)
        exact (List.reverse_perm _).trans (((perm_settled? hsettled).cons a).trans hboth)
      · obtain ⟨⟨found, left⟩, hfound, hpair⟩ := exists_ok_of_bind h
        obtain ⟨rfl, -⟩ := Prod.mk.inj (Except.ok.inj hpair)
        exact (List.reverse_perm found).trans ((perm_mergeSingly hfound).trans hboth)

/-- Merging two runs keeps all items of both. -/
theorem perm_mergeRuns
    {patience patience' : Nat} {as bs merged : List α}
    (h : mergeRuns precedes patience as bs = .ok (merged, patience')) :
    merged.Perm (as ++ bs) := by
  unfold mergeRuns at h
  split at h
  · obtain ⟨m, -, h⟩ := exists_ok_of_bind h
    split at h
    · obtain ⟨rfl, -⟩ := Prod.mk.inj (Except.ok.inj h)
      rfl
    · obtain ⟨n, -, h⟩ := exists_ok_of_bind h
      split at h
      · obtain ⟨rfl, -⟩ := Prod.mk.inj (Except.ok.inj h)
        rfl
      · obtain ⟨⟨between, left⟩, hbetween, hpair⟩ := exists_ok_of_bind h
        obtain ⟨rfl, -⟩ := Prod.mk.inj (Except.ok.inj hpair)
        have hparts := ((perm_mergeMisplaced hbetween).append_left (as.take m)).append_right
          (bs.drop (bs.length - n))
        refine hparts.trans (.of_eq ?_)
        rw [← List.append_assoc, List.take_append_drop, List.append_assoc, List.take_append_drop]
  · obtain ⟨rfl, -⟩ := Prod.mk.inj (Except.ok.inj h)
    rfl

/-! ## Merging all runs -/

/-- The items of runs that wait, with the last run in front. -/
def Found.items (found : Found α) : List α :=
  (found.last :: found.waiting.map Waiting.items).flatten

theorem perm_mergeDeeper
    {power patience : Nat} {last : List α} {waiting : List (Waiting α)} {found : Found α}
    (h : mergeDeeper precedes power patience last waiting = .ok found) :
    found.items.Perm (Found.items ⟨last, waiting, patience⟩) := by
  induction waiting generalizing last patience with
  | nil =>
    obtain rfl := Except.ok.inj h
    rfl
  | cons w rest ih =>
    rw [mergeDeeper] at h
    split at h
    · obtain ⟨⟨merged, left⟩, hmerged, hrest⟩ := exists_ok_of_bind h
      calc found.items
        List.Perm _ (merged ++ (rest.map Waiting.items).flatten) := ih hrest
        List.Perm _ (last ++ w.items ++ (rest.map Waiting.items).flatten) :=
          ((perm_mergeRuns hmerged).trans List.perm_append_comm).append_right _
        _ = last ++ ((w :: rest).map Waiting.items).flatten := List.append_assoc _ _ _
    · obtain rfl := Except.ok.inj h
      rfl

theorem Found.perm_add
    {n : Nat} {found next : Found α} {run : List α} (h : found.add precedes n run = .ok next) :
    next.items.Perm (run ++ found.items) := by
  obtain ⟨merged, hmerged, hnext⟩ := exists_ok_of_bind h
  obtain rfl := Except.ok.inj hnext
  exact (perm_mergeDeeper hmerged).append_left run

theorem perm_mergeAll
    {patience : Nat} {runs : List (List α)} {sorted : List α}
    (h : mergeAll precedes patience runs = .ok sorted) : sorted.Perm runs.flatten := by
  induction patience, runs using mergeAll.induct with
  | case1 patience =>
    rw [mergeAll] at h
    obtain rfl := Except.ok.inj h
    rfl
  | case2 patience z =>
    rw [mergeAll] at h
    obtain rfl := Except.ok.inj h
    rw [List.flatten_singleton]
  | case3 patience z y =>
    rw [mergeAll] at h
    obtain ⟨⟨merged, left⟩, hmerged, rfl⟩ := exists_ok_of_map h
    rw [List.flatten_cons, List.flatten_singleton]
    exact (perm_mergeRuns hmerged).trans List.perm_append_comm
  | case4 patience z y x rest hlt ih =>
    rw [mergeAll, if_pos hlt] at h
    obtain ⟨⟨merged, left⟩, hmerged, hrest⟩ := exists_ok_of_bind h
    calc sorted
      List.Perm _ (z ++ (merged ++ rest.flatten)) := ih _ _ hrest
      List.Perm _ (z ++ (y ++ x ++ rest.flatten)) :=
        (((perm_mergeRuns hmerged).trans List.perm_append_comm).append_right _).append_left z
      _ = z ++ (y ++ (x ++ rest.flatten)) := by rw [List.append_assoc]
  | case5 patience z y x rest hge ih =>
    rw [mergeAll, if_neg hge] at h
    obtain ⟨⟨merged, left⟩, hmerged, hrest⟩ := exists_ok_of_bind h
    calc sorted
      List.Perm _ (merged ++ (x ++ rest.flatten)) := ih _ _ hrest
      List.Perm _ (z ++ y ++ (x ++ rest.flatten)) :=
        ((perm_mergeRuns hmerged).trans List.perm_append_comm).append_right _
      _ = z ++ (y ++ (x ++ rest.flatten)) := List.append_assoc _ _ _

/-- Every run takes something, so that as many runs as there are items are enough. -/
theorem perm_sortRest
    {n runs : Nat} {found : Found α} {xs sorted : List α} (hruns : xs.length ≤ runs)
    (h : sortRest precedes n runs found xs = .ok sorted) : sorted.Perm (found.items ++ xs) := by
  induction runs generalizing found xs with
  | zero =>
    obtain rfl := List.length_eq_zero_iff.mp (Nat.le_zero.mp hruns)
    rw [List.append_nil]
    exact perm_mergeAll h
  | succ runs ih =>
    cases xs with
    | nil =>
      rw [List.append_nil]
      exact perm_mergeAll h
    | cons x xs =>
      obtain ⟨⟨run, rest⟩, hrun, hadd⟩ := exists_ok_of_bind h
      obtain ⟨next, hnext, hrest⟩ := exists_ok_of_bind hadd
      obtain ⟨hperm, hless⟩ := perm_nextRun hrun
      have hlength : rest.length ≤ runs :=
        Nat.le_of_lt_succ (Nat.lt_of_lt_of_le (hless (List.cons_ne_nil x xs)) hruns)
      calc sorted
        List.Perm _ (next.items ++ rest) := ih hlength hrest
        List.Perm _ (run ++ found.items ++ rest) := (Found.perm_add hnext).append_right rest
        List.Perm _ (found.items ++ run ++ rest) := List.perm_append_comm.append_right rest
        _ = found.items ++ (run ++ rest) := List.append_assoc _ _ _
        List.Perm _ (found.items ++ x :: xs) := hperm.append_left found.items

end Sorting

/-- A sort that does not fail gives the items it was given, each as often. -/
theorem perm_sortBy
    {ε α : Type} {precedes : α → α → Except ε Bool} {xs sorted : List α}
    (h : sortBy precedes xs = .ok sorted) : sorted.Perm xs := by
  obtain ⟨⟨run, rest⟩, hrun, hrest⟩ := exists_ok_of_bind h
  obtain ⟨hperm, -⟩ := Sorting.perm_nextRun hrun
  have hlength : rest.length ≤ xs.length := by
    rw [← hperm.length_eq, List.length_append]
    exact Nat.le_add_left _ _
  calc sorted
    List.Perm _ (Sorting.Found.items ⟨run, [], _⟩ ++ rest) := Sorting.perm_sortRest hlength hrest
    _ = run ++ rest := congrArg (· ++ rest) List.flatten_singleton
    List.Perm _ xs := hperm

namespace Value

theorem perm_sortedKeys (keys : List Value) : (sortedKeys keys).Perm keys := by
  unfold sortedKeys
  split
  · rename_i sorted hsorted
    exact perm_sortBy hsorted
  · exact List.mergeSort_perm _ _

end Value

end LiveConfig
