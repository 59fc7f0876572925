import LiveConfig.Proofs.Sorting

/-!
# How sorting fails

A sort fails only as one of its comparisons does, and it compares items of its list only.  So a sort
of items that can all be compared with each other does not fail.  The items that a step works on are
those of the list because every step before it has kept them.

**Result.**
* `failsWith_sortBy`: the failures of a sort are those of comparing two items.
-/

namespace LiveConfig

namespace Sorting

variable {ε α : Type} {precedes : α → α → Except ε Bool} {kind : ε → Prop} {p : α → Prop}

/-- Whatever all items of a list have, those of any other order of it have as well. -/
theorem forall_of_perm {xs ys : List α} (hperm : xs.Perm ys) (h : ∀ y ∈ ys, p y) : ∀ x ∈ xs, p x :=
  fun x hx => h x (hperm.subset hx)

/-- All items of two lists have a property if all those of a list with the same items have it. -/
theorem forall_of_perm_append
    {xs ys zs : List α} (hperm : (xs ++ ys).Perm zs) (h : ∀ z ∈ zs, p z) :
    (∀ x ∈ xs, p x) ∧ ∀ y ∈ ys, p y :=
  List.forall_mem_append.mp (forall_of_perm hperm h)

/-- Comparing two items with a property fails in a certain way only. -/
def ComparingFails (kind : ε → Prop) (precedes : α → α → Except ε Bool) (p : α → Prop) : Prop :=
  ∀ ⦃a b⦄, p a → p b → FailsWith kind (precedes a b)

/-! ## Places -/

section Place

variable {test : α → Except ε Bool} {xs : List α}

theorem failsWith_placeWithin
    (h : ∀ x ∈ xs, FailsWith kind (test x)) (side : Side) (low high : Nat) :
    FailsWith kind (placeWithin test side xs low high) := by
  induction low, high using placeWithin.induct test side xs with
  | case1 low high hlt hnone =>
    rw [placeWithin, dif_pos hlt, hnone]
    exact .ok low
  | case2 low high hlt x hx failure hfails =>
    rw [placeWithin, dif_pos hlt, hx]
    simp only [hfails]
    exact .error (h x (List.mem_of_getElem? hx) failure hfails)
  | case3 low high hlt x hx hpasses ih =>
    rw [placeWithin, dif_pos hlt, hx]
    simpa only [hpasses] using ih
  | case4 low high hlt x hx hfails ih =>
    rw [placeWithin, dif_pos hlt, hx]
    simpa only [hfails] using ih
  | case5 low high hge =>
    rw [placeWithin, dif_neg hge]
    exact .ok low

theorem failsWith_leap (h : ∀ x ∈ xs, FailsWith kind (test x)) (passed next : Nat) :
    FailsWith kind (leap test xs passed next) := by
  induction passed, next using leap.induct test xs with
  | case1 passed next hlt failure hfails =>
    rw [leap, dif_pos hlt]
    simp only [hfails]
    exact .error (h _ (List.getElem_mem hlt) failure hfails)
  | case2 passed next hlt hpasses ih =>
    rw [leap, dif_pos hlt]
    simpa only [hpasses] using ih
  | case3 passed next hlt hfails =>
    rw [leap, dif_pos hlt]
    simp only [hfails]
    exact .ok _
  | case4 passed next hge =>
    rw [leap, dif_neg hge]
    exact .ok _

theorem failsWith_leading (h : ∀ x ∈ xs, FailsWith kind (test x)) (side : Side) :
    FailsWith kind (leading test side xs) := by
  cases xs with
  | nil => exact .ok 0
  | cons x xs =>
    refine (h x List.mem_cons_self).bind fun answer => ?_
    cases answer with
    | true => exact (failsWith_leap h 0 1).bind fun leapt => failsWith_placeWithin h side _ _
    | false => exact .ok 0

end Place

/-! ## Runs -/

section Run

variable (hcompare : ComparingFails kind precedes p)
include hcompare

theorem failsWith_takeRun
    (descending : Bool) {last : α} {xs : List α} (run : List α) (hlast : p last)
    (hxs : ∀ x ∈ xs, p x) : FailsWith kind (takeRun precedes descending last run xs) := by
  induction xs generalizing last run with
  | nil => exact .ok _
  | cons x xs ih =>
    obtain ⟨hx, hrest⟩ := List.forall_mem_cons.mp hxs
    refine (hcompare hx hlast).bind fun answer => ?_
    split
    · exact ih (x :: run) hx hrest
    · exact .ok _

theorem failsWith_firstRun {xs : List α} (hxs : ∀ x ∈ xs, p x) :
    FailsWith kind (firstRun precedes xs) := by
  match xs with
  | [] => exact .ok _
  | [x] => exact .ok _
  | x :: y :: ys =>
    obtain ⟨hx, hy, hys⟩ : p x ∧ p y ∧ ∀ z ∈ ys, p z := by simpa using hxs
    refine (hcompare hy hx).bind fun descending => ?_
    exact (failsWith_takeRun hcompare descending [y, x] hy hys).bind fun _ => .ok _

theorem failsWith_insertAll {run xs : List α} (hrun : ∀ x ∈ run, p x) (hxs : ∀ x ∈ xs, p x) :
    FailsWith kind (insertAll precedes run xs) := by
  induction xs generalizing run with
  | nil => exact .ok run
  | cons x xs ih =>
    obtain ⟨hx, hrest⟩ := List.forall_mem_cons.mp hxs
    have htest : ∀ y ∈ run, FailsWith kind (staysBefore precedes x y) := fun y hy =>
      (hcompare hx (hrun y hy)).map
    refine (failsWith_placeWithin htest .front 0 run.length).bind fun place =>
      ih (fun y hy => ?_) hrest
    rcases List.eq_or_mem_of_mem_insertIdx hy with rfl | hmem
    · exact hx
    · exact hrun y hmem

theorem failsWith_nextRun (least : Nat) {xs : List α} (hxs : ∀ x ∈ xs, p x) :
    FailsWith kind (nextRun precedes least xs) := by
  refine (failsWith_firstRun hcompare hxs).bind_of_ok ?_
  rintro ⟨run, rest⟩ hfirst
  obtain ⟨hrun, hrest⟩ := forall_of_perm_append (perm_firstRun hfirst).1 hxs
  have hinsert := failsWith_insertAll hcompare hrun
    fun x hx => hrest x (List.mem_of_mem_take (i := least - run.length) hx)
  exact hinsert.bind fun _ => .ok _

end Run

/-! ## Merging two runs -/

section Merge

variable (hcompare : ComparingFails kind precedes p)
include hcompare

theorem failsWith_takesFirst (side : Side) {a b : α} (ha : p a) (hb : p b) :
    FailsWith kind (takesFirst precedes side a b) := by
  cases side with
  | front => exact (hcompare hb ha).map
  | back => exact hcompare hb ha

omit hcompare in
/-- Merging fewer than so many items, item by item or by leaps, fails in a certain way. -/
structure FailsBelow (precedes : α → α → Except ε Bool) (kind : ε → Prop) (p : α → Prop)
    (n : Nat) : Prop where
  singly (side : Side) (patience firstCount secondCount : Nat) (done : List α) {as bs : List α} :
    as.length + bs.length < n → (∀ a ∈ as, p a) → (∀ b ∈ bs, p b) →
    FailsWith kind (mergeSingly precedes side patience firstCount secondCount done as bs)
  leaping (side : Side) (patience : Nat) (done : List α) {as bs : List α} :
    as.length + bs.length < n → (∀ a ∈ as, p a) → (∀ b ∈ bs, p b) →
    FailsWith kind (mergeLeaping precedes side patience done as bs)

namespace FailsBelow

variable {n : Nat} {as bs : List α}

theorem failsWith_mergeSingly
    (hbelow : FailsBelow precedes kind p n) (side : Side) (patience firstCount secondCount : Nat)
    (done : List α) (hn : as.length + bs.length ≤ n) (has : ∀ a ∈ as, p a) (hbs : ∀ b ∈ bs, p b) :
    FailsWith kind (mergeSingly precedes side patience firstCount secondCount done as bs) := by
  match as, bs with
  | [], bs =>
    rw [mergeSingly]
    · exact .ok _
    · simp
  | a :: as, [] =>
    rw [mergeSingly]
    · exact .ok _
    · simp
  | a :: as, b :: bs =>
    rw [mergeSingly]
    simp only [List.length_cons] at hn
    have hfirst : as.length + (b :: bs).length < n := by
      rw [List.length_cons]
      omega
    have hsecond : (a :: as).length + bs.length < n := by
      rw [List.length_cons]
      omega
    obtain ⟨ha, has'⟩ := List.forall_mem_cons.mp has
    obtain ⟨hb, hbs'⟩ := List.forall_mem_cons.mp hbs
    refine (failsWith_takesFirst hcompare side ha hb).bind fun answer => ?_
    split
    · split
      · exact .ok _
      · split
        · exact hbelow.leaping side _ _ hfirst has' hbs
        · exact hbelow.singly side _ _ _ _ hfirst has' hbs
    · split
      · exact .ok _
      · split
        · exact hbelow.leaping side _ _ hsecond has hbs'
        · exact hbelow.singly side _ _ _ _ hsecond has hbs'

theorem failsWith_mergeLeaping
    (hbelow : FailsBelow precedes kind p n) (side : Side) (patience : Nat) (done : List α)
    (hn : as.length + bs.length ≤ n) (has : ∀ a ∈ as, p a) (hbs : ∀ b ∈ bs, p b) :
    FailsWith kind (mergeLeaping precedes side patience done as bs) := by
  match bs with
  | [] =>
    rw [mergeLeaping]
    exact .ok _
  | b :: bs =>
    rw [mergeLeaping]
    obtain ⟨hb, hbs'⟩ := List.forall_mem_cons.mp hbs
    refine (failsWith_leading (fun a ha => failsWith_takesFirst hcompare side (has a ha) hb)
      side).bind fun m => ?_
    have hlength := List.length_drop (i := m) (l := as)
    rw [List.length_cons] at hn
    split
    · exact .ok _
    · exact .ok _
    · split
      · exact .ok _
      · rename_i a as' hm
        have hdrop : ∀ x ∈ a :: as', p x := fun x hx =>
          has x (List.mem_of_mem_drop (hm ▸ hx))
        obtain ⟨ha, has'⟩ := List.forall_mem_cons.mp hdrop
        rw [hm, List.length_cons] at hlength
        refine (failsWith_leading (fun b hb => (failsWith_takesFirst hcompare side ha
          (hbs' b hb)).map) side).bind fun k => ?_
        have hrest := List.length_drop (i := k) (l := bs)
        have hless : as'.length + (bs.drop k).length < n := by omega
        have hbehind : ∀ x ∈ bs.drop k, p x := fun x hx => hbs' x (List.mem_of_mem_drop hx)
        split
        · exact .ok _
        · exact .ok _
        · split
          · exact hbelow.leaping side _ _ hless has' hbehind
          · exact hbelow.singly side _ _ _ _ hless has' hbehind

end FailsBelow

/-- Both ways to merge fail alike, by induction on a bound for the number of items left. -/
theorem failsBelow (n : Nat) : FailsBelow precedes kind p n := by
  induction n with
  | zero =>
    exact ⟨fun _ _ _ _ _ _ _ h => absurd h (Nat.not_lt_zero _),
      fun _ _ _ _ _ h => absurd h (Nat.not_lt_zero _)⟩
  | succ n ih =>
    exact ⟨fun side _ _ _ _ _ _ hn has hbs =>
        ih.failsWith_mergeSingly hcompare side _ _ _ _ (Nat.le_of_lt_succ hn) has hbs,
      fun side _ _ _ _ hn has hbs =>
        ih.failsWith_mergeLeaping hcompare side _ _ (Nat.le_of_lt_succ hn) has hbs⟩

theorem failsWith_mergeSingly
    (side : Side) (patience firstCount secondCount : Nat) (done : List α) {as bs : List α}
    (has : ∀ a ∈ as, p a) (hbs : ∀ b ∈ bs, p b) :
    FailsWith kind (mergeSingly precedes side patience firstCount secondCount done as bs) :=
  (failsBelow hcompare _).singly side _ _ _ _ (Nat.lt_succ_self _) has hbs

theorem failsWith_mergeMisplaced
    (patience : Nat) {as bs : List α} (has : ∀ a ∈ as, p a) (hbs : ∀ b ∈ bs, p b) :
    FailsWith kind (mergeMisplaced precedes patience as bs) := by
  unfold mergeMisplaced
  split
  · split
    · exact .ok _
    · split
      · exact .ok _
      · exact failsWith_mergeSingly hcompare .front _ _ _ _ has (List.forall_mem_cons.mp hbs).2
  · split
    · exact .ok _
    · rename_i a rest hreverse
      have hreversed : ∀ x ∈ a :: rest, p x := fun x hx =>
        has x (List.mem_reverse.mp (hreverse ▸ hx))
      have hbehind : ∀ x ∈ bs.reverse, p x := fun x hx => hbs x (List.mem_reverse.mp hx)
      dsimp only
      split
      · exact .ok _
      · exact (failsWith_mergeSingly hcompare .back _ _ _ _ (List.forall_mem_cons.mp hreversed).2
          hbehind).bind fun _ => .ok _

theorem failsWith_mergeRuns
    (patience : Nat) {as bs : List α} (has : ∀ a ∈ as, p a) (hbs : ∀ b ∈ bs, p b) :
    FailsWith kind (mergeRuns precedes patience as bs) := by
  unfold mergeRuns
  split
  · rename_i first last hfirst hlast
    have hpfirst := hbs first (List.mem_of_mem_head? hfirst)
    have hplast := has last (List.mem_of_getLast? hlast)
    refine (failsWith_leading (fun a ha => (hcompare hpfirst (has a ha)).map) .front).bind
      fun m => ?_
    split
    · exact .ok _
    · refine (failsWith_leading (fun b hb =>
        (hcompare (hbs b (List.mem_reverse.mp hb)) hplast).map) .back).bind fun n => ?_
      split
      · exact .ok _
      · refine (failsWith_mergeMisplaced hcompare patience
          (fun a ha => has a (List.mem_of_mem_drop ha))
          fun b hb => hbs b (List.mem_of_mem_take hb)).bind fun _ => .ok _
  · exact .ok _

/-! ## Merging all runs -/

theorem failsWith_mergeDeeper
    (power patience : Nat) {last : List α} {waiting : List (Waiting α)}
    (h : ∀ x ∈ Found.items ⟨last, waiting, patience⟩, p x) :
    FailsWith kind (mergeDeeper precedes power patience last waiting) := by
  induction waiting generalizing last patience with
  | nil => exact .ok _
  | cons w rest ih =>
    have hitems : ∀ x ∈ last ++ (w.items ++ (rest.map Waiting.items).flatten), p x := h
    obtain ⟨hlast, hbehind⟩ := List.forall_mem_append.mp hitems
    obtain ⟨hw, hrest⟩ := List.forall_mem_append.mp hbehind
    rw [mergeDeeper]
    split
    · refine (failsWith_mergeRuns hcompare patience hw hlast).bind_of_ok ?_
      rintro ⟨merged, left⟩ hmerged
      refine ih left ?_
      have hboth := forall_of_perm (perm_mergeRuns hmerged)
        (List.forall_mem_append.mpr ⟨hw, hlast⟩)
      exact List.forall_mem_append.mpr ⟨hboth, hrest⟩
    · exact .ok _

theorem Found.failsWith_add
    (n : Nat) {found : Found α} (run : List α) (h : ∀ x ∈ found.items, p x) :
    FailsWith kind (found.add precedes n run) :=
  (failsWith_mergeDeeper hcompare _ found.patience h).bind fun _ => .ok _

theorem failsWith_mergeAll
    (patience : Nat) {runs : List (List α)} (h : ∀ x ∈ runs.flatten, p x) :
    FailsWith kind (mergeAll precedes patience runs) := by
  induction patience, runs using mergeAll.induct with
  | case1 patience =>
    rw [mergeAll]
    exact .ok _
  | case2 patience z =>
    rw [mergeAll]
    exact .ok _
  | case3 patience z y =>
    rw [List.flatten_cons, List.flatten_singleton] at h
    obtain ⟨hz, hy⟩ := List.forall_mem_append.mp h
    rw [mergeAll]
    exact (failsWith_mergeRuns hcompare patience hy hz).map
  | case4 patience z y x rest hlt ih =>
    obtain ⟨hz, hbehind⟩ := List.forall_mem_append.mp h
    obtain ⟨hy, hbehind⟩ := List.forall_mem_append.mp hbehind
    obtain ⟨hx, hrest⟩ := List.forall_mem_append.mp hbehind
    rw [mergeAll, if_pos hlt]
    refine (failsWith_mergeRuns hcompare patience hx hy).bind_of_ok ?_
    rintro ⟨merged, left⟩ hmerged
    refine ih _ _ ?_
    have hboth := forall_of_perm (perm_mergeRuns hmerged) (List.forall_mem_append.mpr ⟨hx, hy⟩)
    exact List.forall_mem_append.mpr ⟨hz, List.forall_mem_append.mpr ⟨hboth, hrest⟩⟩
  | case5 patience z y x rest hge ih =>
    obtain ⟨hz, hbehind⟩ := List.forall_mem_append.mp h
    obtain ⟨hy, hbehind⟩ := List.forall_mem_append.mp hbehind
    rw [mergeAll, if_neg hge]
    refine (failsWith_mergeRuns hcompare patience hy hz).bind_of_ok ?_
    rintro ⟨merged, left⟩ hmerged
    refine ih _ _ ?_
    have hboth := forall_of_perm (perm_mergeRuns hmerged) (List.forall_mem_append.mpr ⟨hy, hz⟩)
    exact List.forall_mem_append.mpr ⟨hboth, hbehind⟩

theorem failsWith_sortRest
    (n runs : Nat) {found : Found α} {xs : List α} (hfound : ∀ x ∈ found.items, p x)
    (hxs : ∀ x ∈ xs, p x) : FailsWith kind (sortRest precedes n runs found xs) := by
  induction runs generalizing found xs with
  | zero => exact failsWith_mergeAll hcompare _ hfound
  | succ runs ih =>
    cases xs with
    | nil => exact failsWith_mergeAll hcompare _ hfound
    | cons x xs =>
      refine (failsWith_nextRun hcompare _ hxs).bind_of_ok ?_
      rintro ⟨run, rest⟩ hnext
      obtain ⟨hrun, hrest⟩ := forall_of_perm_append (perm_nextRun hnext).1 hxs
      refine (Found.failsWith_add hcompare n run hfound).bind_of_ok fun next hadded => ?_
      have hboth := forall_of_perm (Found.perm_add hadded)
        (List.forall_mem_append.mpr ⟨hrun, hfound⟩)
      exact ih hboth hrest

end Merge

end Sorting

/-- A sort fails only as the comparison of two of its items does. -/
theorem failsWith_sortBy
    {ε α : Type} {precedes : α → α → Except ε Bool} {kind : ε → Prop} {xs : List α}
    (h : ∀ a ∈ xs, ∀ b ∈ xs, FailsWith kind (precedes a b)) :
    FailsWith kind (sortBy precedes xs) := by
  have hcompare : Sorting.ComparingFails kind precedes (· ∈ xs) := fun a b ha hb => h a ha b hb
  refine (Sorting.failsWith_nextRun hcompare _ fun x hx => hx).bind_of_ok ?_
  rintro ⟨run, rest⟩ hnext
  obtain ⟨hrun, hrest⟩ := Sorting.forall_of_perm_append (Sorting.perm_nextRun hnext).1
    fun x hx => hx
  refine Sorting.failsWith_sortRest hcompare _ _ (fun x hx => hrun x ?_) hrest
  simpa [Sorting.Found.items] using hx

end LiveConfig
