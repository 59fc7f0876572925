import LiveConfig.Proofs.Handle.Release

/-!
# The order of a release

Every walk of a release closes a handle before its ancestors.  Several walks share ancestors, and
the first one that comes by closes them.  So a handle that is reached only by a later walk is
closed after an ancestor if an earlier walk has been there.

Here the callbacks are quiet: they note things and fail ordinarily, but close nothing themselves.
Then a release closes exactly what its walks reach, each handle once, and its order is known: a
walk adds its open handles, every one before its ancestors (`Handles.Closed`).

**Results.**
* `Handles.closed_releaseChain`, `Handles.ordered_releaseAll`: what one walk and several walks
  close, and in which order.
* `Attempt.release_childrenFirst_iff`: children are closed before their parents if and only if
  every walk that meets an earlier one starts where an earlier one has been.
* `Attempt.release_siblings`: of two siblings whose parent was tracked before them, one is closed
  last.
-/

namespace LiveConfig

/-! ## Quiet callbacks -/

namespace CloseAction

/-- Whether an action only notes something or fails ordinarily. -/
def isQuiet : CloseAction → Bool
  | say _ => true
  | fail failure => failure.isOrdinary
  | close _ => false
  | ask _ => true
  | onClose _ _ => false

theorem isTame_of_isQuiet {action : CloseAction} (h : action.isQuiet = true) :
    action.isTame = true := by
  cases action with
  | say items => rfl
  | fail failure => exact h
  | ask i => rfl
  | close i => cases h
  | onClose i callback => cases h

theorem areTame_of_isQuiet :
    ∀ {actions : List CloseAction}, actions.all isQuiet = true → areTame actions = true
  | [], _ => rfl
  | action :: rest, h => by
    rw [List.all_cons, Bool.and_eq_true] at h
    rw [areTame, isTame_of_isQuiet h.1, areTame_of_isQuiet h.2]
    rfl

end CloseAction

namespace HandleEvent

/-- The handle that is closed. -/
def closed? : HandleEvent → Option Nat
  | closed i => some i
  | started _ _ => none

end HandleEvent

namespace Handles

/-- All callbacks of all handles are quiet. -/
def Quiet (s : Handles) : Prop :=
  ∀ h ∈ s.handles, ∀ callback ∈ h.callbacks, callback.all CloseAction.isQuiet = true

/-- The handles that were closed, in order. -/
def closings (s : Handles) : List Nat :=
  s.history.filterMap HandleEvent.closed?

/-- One handle is reached from another through at least one parent. -/
def Ancestor (s : Handles) (a b : Nat) : Prop :=
  Relation.TransGen (fun x y => s.parentOf x = some y) b a

/-- No handle is its own ancestor. -/
def Acyclic (s : Handles) : Prop :=
  ∀ i, ¬s.Ancestor i i

variable {s t : Handles}

theorem Quiet.tame (h : s.Quiet) : s.Tame := by
  intro handle hmem
  refine List.all_eq_true.mpr fun callback hcallback => ?_
  exact CloseAction.areTame_of_isQuiet (h handle hmem callback hcallback)

theorem Advances.ancestor_iff (h : s.Advances t) {a b : Nat} : t.Ancestor a b ↔ s.Ancestor a b := by
  simp only [Ancestor, h.parentOf_eq]

theorem Advances.acyclic (h : s.Advances t) (hs : s.Acyclic) : t.Acyclic :=
  fun i hi => hs i (h.ancestor_iff.mp hi)

/-! ## Closing a quiet handle -/

section Run

variable (close : Nat → Handles → Closing)

/-- Quiet actions change the journal only. -/
theorem runActions_quiet
    {actions : List CloseAction} (h : actions.all CloseAction.isQuiet = true) (s : Handles) :
    (runActions close actions s).1.handles = s.handles ∧
      (runActions close actions s).1.history = s.history := by
  induction actions generalizing s with
  | nil => exact ⟨rfl, rfl⟩
  | cons action rest ih =>
    rw [List.all_cons, Bool.and_eq_true] at h
    obtain ⟨haction, hrest⟩ := h
    cases action with
    | say items => exact ih hrest (s.note (.said items))
    | fail failure => exact ⟨rfl, rfl⟩
    | ask i =>
      rw [runActions]
      split
      · exact ih hrest s
      · rename_i h hget
        exact ih hrest (s.note (.handle h.name h.closed))
    | close i => cases haction
    | onClose i callback => cases haction

/-- Quiet callbacks change no handle and close none. -/
theorem runCallbacks_quiet
    {callbacks : List (List CloseAction × Nat)}
    (h : ∀ e ∈ callbacks, e.1.all CloseAction.isQuiet = true) (i : Nat) (first : Option Failure)
    (s : Handles) :
    (runCallbacks close i callbacks first s).1.handles = s.handles ∧
      (runCallbacks close i callbacks first s).1.closings = s.closings := by
  induction callbacks generalizing first s with
  | nil => exact ⟨rfl, rfl⟩
  | cons e rest ih =>
    obtain ⟨callback, position⟩ := e
    obtain ⟨hcallback, hrest⟩ := List.forall_mem_cons.mp h
    obtain ⟨hhandles, hhistory⟩ :=
      runActions_quiet close hcallback (s.recordEvent (.started i position))
    have hclosings :
        (runActions close callback (s.recordEvent (.started i position))).1.closings =
          s.closings := by
      rw [closings, hhistory]
      simp [recordEvent, closings, HandleEvent.closed?]
    have hstep (first : Option Failure) (t : Handles)
        (ht : t.handles = s.handles) (htc : t.closings = s.closings) :
        (runCallbacks close i rest first t).1.handles = s.handles ∧
          (runCallbacks close i rest first t).1.closings = s.closings := by
      obtain ⟨hh, hc⟩ := ih hrest first t
      exact ⟨hh.trans ht, hc.trans htc⟩
    rw [runCallbacks]
    generalize runActions close callback (s.recordEvent (.started i position)) = c
      at hhandles hclosings ⊢
    obtain ⟨t, failure⟩ := c
    cases failure with
    | none => exact hstep first t hhandles hclosings
    | some failure =>
      dsimp only
      split
      · exact hstep (first.or (some failure)) t hhandles hclosings
      · exact ⟨hhandles, hclosings⟩

end Run

theorem Quiet.modify
    {f : Handle → Handle} (h : s.Quiet) (i : Nat)
    (hf : ∀ handle : Handle, ∀ callback ∈ (f handle).callbacks, callback ∈ handle.callbacks) :
    (s.modify i f).Quiet := by
  intro handle hmem callback hcallback
  obtain ⟨j, hj⟩ := List.getElem?_of_mem hmem
  have hget : (s.get? j).map (if i = j then f else id) = some handle :=
    (get?_modify s i f j).symm.trans hj
  obtain ⟨old, hold, rfl⟩ := Option.map_eq_some_iff.mp hget
  have hquiet := h old (List.mem_of_getElem? hold)
  split at hcallback
  · exact hquiet callback (hf old callback hcallback)
  · exact hquiet callback hcallback

theorem isClosed_markClosed_iff
    {i : Nat} (hi : i < s.handles.length) (j : Nat) :
    (s.markClosed i).isClosed j = true ↔ s.isClosed j = true ∨ j = i := by
  by_cases hij : i = j
  · subst hij
    exact iff_of_true (isClosed_markClosed hi) (Or.inr rfl)
  · have hsame : (s.markClosed i).isClosed j = s.isClosed j := by
      have hget : (s.markClosed i).get? j = s.get? j := get?_modify_of_ne hij
      rw [isClosed, hget, isClosed]
    rw [hsame, or_iff_left fun h => hij h.symm]

/-- Some handles were closed, one after another, and all else is as it was but for the journal. -/
structure Closed (s : Handles) (order : List Nat) (t : Handles) : Prop where
  advances : s.Advances t
  quiet : t.Quiet
  closings_eq : t.closings = s.closings ++ order
  isClosed_iff : ∀ j, t.isClosed j = true ↔ s.isClosed j = true ∨ j ∈ order

namespace Closed

variable {u : Handles} {order order' : List Nat}

theorem refl (h : s.Quiet) : s.Closed [] s :=
  ⟨Advances.refl s, h, (List.append_nil _).symm, fun j => by simp⟩

theorem trans (h : s.Closed order t) (h' : t.Closed order' u) : s.Closed (order ++ order') u where
  advances := h.advances.trans h'.advances
  quiet := h'.quiet
  closings_eq := by rw [h'.closings_eq, h.closings_eq, List.append_assoc]
  isClosed_iff j := by rw [h'.isClosed_iff, h.isClosed_iff, List.mem_append, or_assoc]

/-- The journal does not matter, nor does the start of a callback. -/
theorem of_handles_eq
    (h : s.Closed order t) (hhandles : u.handles = t.handles) (hclosings : u.closings = t.closings) :
    s.Closed order u where
  advances := h.advances.trans (Advances.of_handles_eq hhandles)
  quiet handle hmem := h.quiet handle (hhandles ▸ hmem)
  closings_eq := hclosings.trans h.closings_eq
  isClosed_iff j := by
    rw [← h.isClosed_iff, isClosed, isClosed, get?, get?, hhandles]

theorem clearCallbacks (h : s.Closed order t) (i : Nat) :
    s.Closed order (t.modify i Handle.clearCallbacks) where
  advances := h.advances.trans (Advances.modify i (fun _ => rfl) fun _ hclosed => hclosed)
  quiet := h.quiet.modify i fun _ _ hcallback => (List.not_mem_nil hcallback).elim
  closings_eq := h.closings_eq
  isClosed_iff j := by rw [isClosed_modify (f := Handle.clearCallbacks) fun _ => rfl, h.isClosed_iff]

theorem finish {c : Closing} (h : s.Closed order c.1) (i : Nat) :
    s.Closed order (finish i c).1 := by
  obtain ⟨t, failure⟩ := c
  cases failure with
  | none => exact h.clearCallbacks i
  | some failure =>
    rw [Handles.finish]
    split
    · exact h.clearCallbacks i
    · exact h

end Closed

theorem closed_markClosed (h : s.Quiet) {i : Nat} (hi : i < s.handles.length) :
    s.Closed [i] (s.markClosed i) where
  advances := advances_markClosed s i
  quiet := h.modify i fun _ _ hcallback => hcallback
  closings_eq := by simp [closings, markClosed, recordEvent, HandleEvent.closed?, Handles.modify]
  isClosed_iff j := by rw [isClosed_markClosed_iff hi, List.mem_singleton]

/-- Closing a quiet handle closes it, if it is open, and nothing else. -/
theorem closed_close
    (h : s.Quiet) {i : Nat} (hi : i < s.handles.length) :
    s.Closed (if s.isClosed i then [] else [i]) (s.close i).1 := by
  cases hclosed : s.isClosed i with
  | true =>
    rw [close_of_isClosed hclosed]
    exact Closed.refl h
  | false =>
    have hget : s.get? i = some s.handles[i] := List.getElem?_eq_getElem hi
    have hopen : s.handles[i].closed = false := by simpa [isClosed, hget] using hclosed
    have hcallbacks : ∀ e ∈ s.handles[i].callbacks.zipIdx.reverse,
        e.1.all CloseAction.isQuiet = true := by
      intro e he
      have hmem : e.1 ∈ s.handles[i].callbacks :=
        List.fst_mem_of_mem_zipIdx (List.mem_reverse.mp he)
      exact h _ (List.getElem_mem hi) _ hmem
    obtain ⟨n, hrun⟩ := exists_close_eq hget hopen
    obtain ⟨hhandles, hclosings⟩ :=
      runCallbacks_quiet (closeWithin n) hcallbacks i none (s.markClosed i)
    rw [hrun]
    exact ((closed_markClosed h hi).of_handles_eq hhandles hclosings).finish i

/-! ## One walk -/

theorem not_onChain_none (j : Nat) : ¬s.OnChain none j := by
  rintro ⟨-, k, hk, -⟩
  cases hk

/-- A chain is its start and the chain of the parent. -/
theorem onChain_some_iff
    {k : Nat} (hk : k < s.handles.length) (j : Nat) :
    s.OnChain (some k) j ↔ j = k ∨ s.OnChain (s.parentOf k) j := by
  constructor
  · rintro ⟨hlt, k', ⟨⟩, hpath⟩
    rcases Relation.ReflTransGen.cases_head hpath with rfl | ⟨p, hp, hrest⟩
    · exact Or.inl rfl
    · exact Or.inr ⟨hlt, p, hp, hrest⟩
  · rintro (rfl | ⟨hlt, p, hp, hrest⟩)
    · exact ⟨hk, j, rfl, .refl⟩
    · exact ⟨hlt, k, rfl, hrest.head hp⟩

/-- There is nothing on the chain of a handle that does not exist. -/
theorem not_onChain_of_le
    {k : Nat} (hk : s.handles.length ≤ k) (j : Nat) : ¬s.OnChain (some k) j := by
  rintro ⟨hlt, k', ⟨⟩, hpath⟩
  rcases Relation.ReflTransGen.cases_head hpath with rfl | ⟨p, hp, -⟩
  · omega
  · have := lt_of_parentOf hp
    omega

theorem ancestor_of_onChain_parentOf
    {k j : Nat} (h : s.OnChain (s.parentOf k) j) : s.Ancestor j k := by
  obtain ⟨-, p, hp, hpath⟩ := h
  exact Relation.TransGen.head' hp hpath

/-- What is on a chain is its start or an ancestor of it. -/
theorem eq_or_ancestor_of_onChain
    {k j : Nat} (h : s.OnChain (some k) j) : j = k ∨ s.Ancestor j k := by
  obtain ⟨-, k', ⟨⟩, hpath⟩ := h
  rcases Relation.reflTransGen_iff_eq_or_transGen.mp hpath with rfl | htrans
  · exact Or.inl rfl
  · exact Or.inr htrans

/-- The open handles of a chain, each one before its ancestors. -/
structure ChainOrder (s : Handles) (i : Option Nat) (order : List Nat) : Prop where
  mem_iff : ∀ j, j ∈ order ↔ s.OnChain i j ∧ s.isClosed j = false
  pairwise : order.Pairwise fun a b => s.Ancestor b a

theorem ChainOrder.nil
    {i : Option Nat} (h : ∀ j, ¬s.OnChain i j) : s.ChainOrder i [] :=
  ⟨fun j => ⟨fun hj => (List.not_mem_nil hj).elim, fun hj => (h j hj.1).elim⟩, List.Pairwise.nil⟩

/-- A handle comes before the chain of its parent. -/
theorem ChainOrder.next
    {k : Nat} {order : List Nat} (hac : s.Acyclic) (hk : k < s.handles.length)
    (hclosed : s.Closed (if s.isClosed k then [] else [k]) t)
    (h : t.ChainOrder (t.parentOf k) order) :
    s.ChainOrder (some k) ((if s.isClosed k then [] else [k]) ++ order) := by
  have hparent (j : Nat) : t.OnChain (t.parentOf k) j ↔ s.OnChain (s.parentOf k) j := by
    rw [hclosed.advances.onChain_iff, hclosed.advances.parentOf_eq]
  have hne {j : Nat} (hj : s.OnChain (s.parentOf k) j) : j ≠ k := by
    rintro rfl
    exact hac j (ancestor_of_onChain_parentOf hj)
  have hhead (j : Nat) : j ∈ (if s.isClosed k then [] else [k]) ↔ j = k ∧ s.isClosed k = false := by
    cases s.isClosed k <;> simp
  have hrest (j : Nat) : j ∈ order ↔ s.OnChain (s.parentOf k) j ∧ s.isClosed j = false := by
    rw [h.mem_iff, hparent, and_congr_right_iff]
    intro hj
    rw [← Bool.not_eq_true, ← Bool.not_eq_true, hclosed.isClosed_iff, hhead]
    simp [hne hj]
  refine ⟨fun j => ?_, List.pairwise_append.mpr ⟨?_, ?_, ?_⟩⟩
  · rw [List.mem_append, hhead, hrest, onChain_some_iff hk, or_and_right]
    constructor
    · rintro (⟨rfl, hopen⟩ | hj)
      · exact Or.inl ⟨rfl, hopen⟩
      · exact Or.inr hj
    · rintro (⟨rfl, hopen⟩ | hj)
      · exact Or.inl ⟨rfl, hopen⟩
      · exact Or.inr hj
  · split
    · exact List.Pairwise.nil
    · exact List.pairwise_singleton _ _
  · exact h.pairwise.imp fun hab => hclosed.advances.ancestor_iff.mp hab
  · intro a ha b hb
    rw [(hhead a).mp ha |>.1]
    exact ancestor_of_onChain_parentOf ((hrest b).mp hb).1

/-- A walk closes the open handles of its chain, each one before its ancestors. -/
theorem closed_releaseFrom
    {n : Nat} {seen : List Nat} {i : Option Nat} {s : Handles} (hquiet : s.Quiet)
    (hac : s.Acyclic) (hnodup : seen.Nodup) (hseen : ∀ k ∈ seen, s.isClosed k = true)
    (hbelow : ∀ k ∈ seen, ∀ j, i = some j → s.Ancestor j k)
    (hfuel : s.handles.length < seen.length + n) (failed : List Nat) :
    ∃ order, s.Closed order (releaseFrom n seen i s failed).handles ∧ s.ChainOrder i order := by
  induction n generalizing seen i s failed with
  | zero =>
    have := length_le_of_isClosed hnodup hseen
    omega
  | succ n ih =>
    cases i with
    | none => exact ⟨[], Closed.refl hquiet, ChainOrder.nil not_onChain_none⟩
    | some k =>
      have hnew : k ∉ seen := fun hk => hac k (hbelow k hk k rfl)
      have hcontains : seen.contains k = false := by simpa using hnew
      rw [releaseFrom, hcontains, if_neg Bool.false_ne_true]
      cases hget : s.get? k with
      | none =>
        have hle : s.handles.length ≤ k := List.getElem?_eq_none_iff.mp hget
        exact ⟨[], Closed.refl hquiet, ChainOrder.nil (not_onChain_of_le hle)⟩
      | some handle =>
        have hlt : k < s.handles.length := (List.getElem?_eq_some_iff.mp hget).1
        have hclosing := closed_close hquiet hlt
        have hisClosed := isClosed_close hlt
        have hordinary := (closes_close k s).isOrdinary hquiet.tame
        -- whatever is recorded of a failure, the walk goes on from the closed handle
        have hnext (t : Handles) (failed : List Nat)
            (ht : s.Closed (if s.isClosed k then [] else [k]) t) (htk : t.isClosed k = true) :
            ∃ order, s.Closed order (releaseFrom n (k :: seen) (t.parentOf k) t failed).handles ∧
              s.ChainOrder (some k) order := by
          have hseen' : ∀ k' ∈ k :: seen, t.isClosed k' = true :=
            List.forall_mem_cons.mpr
              ⟨htk, fun k' hk' => ht.advances.isClosed_of k' (hseen k' hk')⟩
          have hbelow' : ∀ k' ∈ k :: seen, ∀ j, t.parentOf k = some j → t.Ancestor j k' := by
            intro k' hk' j hj
            have hparent : s.Ancestor j k :=
              .single ((ht.advances.parentOf_eq k).symm.trans hj)
            refine ht.advances.ancestor_iff.mpr ?_
            rcases List.mem_cons.mp hk' with rfl | hk'
            · exact hparent
            · exact (hbelow k' hk' k rfl).trans hparent
          have hfuel' : t.handles.length < (k :: seen).length + n := by
            rw [ht.advances.length_eq, List.length_cons]
            omega
          obtain ⟨order, hclosed, horder⟩ :=
            ih ht.quiet (ht.advances.acyclic hac) (List.nodup_cons.mpr ⟨hnew, hnodup⟩) hseen'
              hbelow' hfuel' failed
          exact ⟨_, ht.trans hclosed, horder.next hac hlt ht⟩
        generalize s.close k = c at hclosing hisClosed hordinary ⊢
        obtain ⟨t, failure⟩ := c
        cases failure with
        | none => exact hnext t failed hclosing hisClosed
        | some failure =>
          have hord : failure.isOrdinary = true := hordinary failure rfl
          simp only [hord, if_true]
          exact hnext _ _ (hclosing.of_handles_eq rfl rfl) hisClosed

theorem closed_releaseChain
    (hquiet : s.Quiet) (hac : s.Acyclic) (i : Option Nat) :
    ∃ order, s.Closed order (s.releaseChain i).handles ∧ s.ChainOrder i order :=
  closed_releaseFrom hquiet hac List.nodup_nil (List.forall_mem_nil _) (List.forall_mem_nil _)
    (by simp) []

/-! ## Several walks -/

/-- No handle is closed before one that has it among its ancestors. -/
def ChildrenFirst (s : Handles) (order : List Nat) : Prop :=
  order.Pairwise fun a b => ¬s.Ancestor a b

/--
Every walk that meets an earlier one starts where an earlier one has been, if some handles were
visited before.
-/
def MeetsFromStart (s : Handles) (visited : Nat → Prop) (starts : List (Option Nat)) : Prop :=
  ∀ before k after, starts = before ++ some k :: after →
    ∀ m, s.OnChain (some k) m → (visited m ∨ ∃ i ∈ before, s.OnChain i m) →
      visited k ∨ ∃ i ∈ before, s.OnChain i k

theorem meetsFromStart_cons_iff
    {visited : Nat → Prop} {i : Option Nat} {rest : List (Option Nat)} :
    s.MeetsFromStart visited (i :: rest) ↔
      (∀ k, i = some k → ∀ m, s.OnChain i m → visited m → visited k) ∧
        s.MeetsFromStart (fun m => visited m ∨ s.OnChain i m) rest := by
  constructor
  · intro h
    constructor
    · rintro k rfl m hm hvisited
      rcases h [] k rest rfl m hm (Or.inl hvisited) with hk | ⟨i', hi', -⟩
      · exact hk
      · cases hi'
    · rintro before k after rfl m hm hmeets
      have hmeets' : visited m ∨ ∃ i' ∈ i :: before, s.OnChain i' m := by
        rw [List.exists_mem_cons_iff, ← or_assoc]
        exact hmeets
      have hstart := h (i :: before) k after rfl m hm hmeets'
      rwa [List.exists_mem_cons_iff, ← or_assoc] at hstart
  · rintro ⟨hhead, hrest⟩ before k after hsplit m hm hmeets
    cases before with
    | nil =>
      obtain ⟨rfl, rfl⟩ := List.cons.inj hsplit
      rcases hmeets with hvisited | ⟨i', hi', -⟩
      · exact Or.inl (hhead k rfl m hm hvisited)
      · cases hi'
    | cons i' before =>
      obtain ⟨rfl, rfl⟩ := List.cons.inj hsplit
      rw [List.exists_mem_cons_iff, ← or_assoc] at hmeets ⊢
      exact hrest before k after rfl m hm hmeets

/--
Let all that is above a closed handle be closed.  Then a chain has an open handle below a closed
one if and only if it meets a closed one and its start is open.
-/
theorem ChainOrder.childrenFirst_iff
    {i : Option Nat} {order : List Nat} (h : s.ChainOrder i order)
    (hup : ∀ k p, s.isClosed k = true → s.Ancestor p k → p < s.handles.length →
      s.isClosed p = true) :
    (∀ a b, s.isClosed a = true → b ∈ order → ¬s.Ancestor a b) ↔
      ∀ k, i = some k → ∀ m, s.OnChain i m → s.isClosed m = true → s.isClosed k = true := by
  constructor
  · rintro hfirst k rfl m hm hclosed
    by_contra hopen
    rw [Bool.not_eq_true] at hopen
    have hlt : k < s.handles.length := by
      by_contra hge
      exact not_onChain_of_le (Nat.le_of_not_lt hge) m hm
    have hk : k ∈ order := (h.mem_iff k).mpr ⟨(onChain_some_iff hlt k).mpr (Or.inl rfl), hopen⟩
    rcases eq_or_ancestor_of_onChain hm with rfl | hancestor
    · rw [hclosed] at hopen
      cases hopen
    · exact hfirst m k hclosed hk hancestor
  · intro hstart a b ha hb hancestor
    obtain ⟨hchain, hopen⟩ := (h.mem_iff b).mp hb
    obtain ⟨hlt, k, rfl, hpath⟩ := hchain
    have halt : a < s.handles.length := lt_of_isClosed ha
    have hon : s.OnChain (some k) a := ⟨halt, k, rfl, hpath.trans hancestor.to_reflTransGen⟩
    have hk : s.isClosed k = true := hstart k rfl a hon ha
    -- the start is closed, so everything above it is, and `b` too
    have hb' : s.isClosed b = true := by
      rcases Relation.reflTransGen_iff_eq_or_transGen.mp hpath with rfl | htrans
      · exact hk
      · exact hup k b hk htrans hlt
    rw [hb'] at hopen
    cases hopen

/-- What a release of several chains closes, and when it closes children first. -/
theorem ordered_releaseAll
    (starts : List (Option Nat)) (hquiet : s.Quiet) (hac : s.Acyclic)
    (hup : ∀ k p, s.isClosed k = true → s.Ancestor p k → p < s.handles.length →
      s.isClosed p = true) :
    ∃ order, s.Closed order (releaseAll starts s).1 ∧
      order.Nodup ∧
      (∀ j, j ∈ order ↔ (∃ i ∈ starts, s.OnChain i j) ∧ s.isClosed j = false) ∧
      (s.ChildrenFirst order ∧ (∀ a b, s.isClosed a = true → b ∈ order → ¬s.Ancestor a b) ↔
        s.MeetsFromStart (fun m => s.isClosed m = true) starts) := by
  induction starts generalizing s with
  | nil =>
    refine ⟨[], Closed.refl hquiet, List.nodup_nil, by simp, iff_of_true ⟨.nil, by simp⟩ ?_⟩
    intro before k after hsplit
    simp at hsplit
  | cons i rest ih =>
    obtain ⟨first, hclosed, hchain⟩ := closed_releaseChain hquiet hac i
    have hnone : (s.releaseChain i).interrupted = none :=
      (released_releaseChain hquiet.tame i).interruption_eq
    have hadv := hclosed.advances
    have hvisited (m : Nat) :
        (s.releaseChain i).handles.isClosed m = true ↔ s.isClosed m = true ∨ s.OnChain i m := by
      rw [hclosed.isClosed_iff, hchain.mem_iff]
      cases s.isClosed m <;> simp
    have hup' : ∀ k p, (s.releaseChain i).handles.isClosed k = true →
        (s.releaseChain i).handles.Ancestor p k → p < (s.releaseChain i).handles.handles.length →
          (s.releaseChain i).handles.isClosed p = true := by
      intro k p hk hp hlt
      rw [hadv.ancestor_iff] at hp
      rw [hadv.length_eq] at hlt
      rw [hvisited] at hk ⊢
      rcases hk with hk | ⟨-, k', hk', hpath⟩
      · exact Or.inl (hup k p hk hp hlt)
      · exact Or.inr ⟨hlt, k', hk', hpath.trans hp.to_reflTransGen⟩
    obtain ⟨later, hrest, hnodup, hmem, hiff⟩ := ih hclosed.quiet (hadv.acyclic hac) hup'
    have hlater (j : Nat) : j ∈ later ↔
        (∃ i' ∈ rest, s.OnChain i' j) ∧ s.isClosed j = false ∧ ¬s.OnChain i j := by
      rw [hmem, ← Bool.not_eq_true, hvisited]
      simp only [hadv.onChain_iff, not_or, Bool.not_eq_true]
    refine ⟨first ++ later, ?_, ?_, ?_, ?_⟩
    · simp only [releaseAll, hnone]
      exact hclosed.trans hrest
    · refine List.nodup_append.mpr ⟨hchain.pairwise.imp ?_, hnodup, ?_⟩
      · rintro a b hab rfl
        exact hac a hab
      · rintro a ha b hb rfl
        exact ((hlater a).mp hb).2.2 ((hchain.mem_iff a).mp ha).1
    · intro j
      rw [List.mem_append, hchain.mem_iff, hlater, List.exists_mem_cons_iff]
      tauto
    · have hsame : (s.releaseChain i).handles.MeetsFromStart
            (fun m => (s.releaseChain i).handles.isClosed m = true) rest ↔
          s.MeetsFromStart (fun m => s.isClosed m = true ∨ s.OnChain i m) rest := by
        simp only [MeetsFromStart, hadv.onChain_iff, hvisited]
      rw [meetsFromStart_cons_iff, ← hsame, ← hiff, ← hchain.childrenFirst_iff hup]
      simp only [ChildrenFirst, List.pairwise_append, hadv.ancestor_iff, hvisited]
      have hown : first.Pairwise fun a b => ¬s.Ancestor a b := by
        refine hchain.pairwise.imp ?_
        intro a b hba hab
        exact hac a (Relation.TransGen.trans hba hab)
      constructor
      · rintro ⟨⟨-, hlaterFirst, hcross⟩, hclosedFirst⟩
        refine ⟨fun a b ha hb => hclosedFirst a b ha (List.mem_append_left _ hb), hlaterFirst, ?_⟩
        intro a b ha hb
        by_cases hopen : s.isClosed a = true
        · exact hclosedFirst a b hopen (List.mem_append_right _ hb)
        · have hon : s.OnChain i a := ha.resolve_left hopen
          rw [Bool.not_eq_true] at hopen
          exact hcross a ((hchain.mem_iff a).mpr ⟨hon, hopen⟩) b hb
      · rintro ⟨hclosedFirst, hlaterFirst, hcross⟩
        refine ⟨⟨hown, hlaterFirst, fun a ha b hb => ?_⟩, fun a b ha hb => ?_⟩
        · exact hcross a b (Or.inr ((hchain.mem_iff a).mp ha).1) hb
        · rcases List.mem_append.mp hb with hb | hb
          · exact hclosedFirst a b ha hb
          · exact hcross a b (Or.inl ha) hb

end Handles

namespace Attempt

/-- Every walk of the release that meets an earlier one starts where an earlier one has been. -/
def MeetsFromStart (a : Attempt) : Prop :=
  ∀ before k after, a.releaseOrder = before ++ some k :: after →
    ∀ m, a.tracking.handles.OnChain (some k) m →
      (∃ i ∈ before, a.tracking.handles.OnChain i m) →
        ∃ i ∈ before, a.tracking.handles.OnChain i k

/--
**When children are closed before their parents.**  A release of open handles with quiet callbacks
and without cycles is not interrupted, and closes what can be reached from the released handles,
each handle once.  It closes no handle before one that has it among its ancestors if and only if
every walk up the parents that meets an earlier walk starts where an earlier one has been.
-/
theorem release_childrenFirst_iff
    (a : Attempt) (hopen : ∀ h ∈ a.tracking.handles.handles, h.closed = false)
    (hquiet : a.tracking.handles.Quiet) (hac : a.tracking.handles.Acyclic) :
    a.release.2 = none ∧
    ∃ order,
      a.release.1.closings = a.tracking.handles.closings ++ order ∧
      order.Nodup ∧
      (∀ j, j ∈ order ↔ ∃ i ∈ a.releaseOrder, a.tracking.handles.OnChain i j) ∧
      (a.tracking.handles.ChildrenFirst order ↔ a.MeetsFromStart) := by
  have hnotClosed (i : Nat) : a.tracking.handles.isClosed i = false := by
    unfold Handles.isClosed
    cases hget : a.tracking.handles.get? i with
    | none => rfl
    | some h => exact hopen h (List.mem_of_getElem? hget)
  obtain ⟨order, hclosed, hnodup, hmem, hiff⟩ :=
    Handles.ordered_releaseAll a.releaseOrder hquiet hac
      fun k p hk => by simp [hnotClosed] at hk
  refine ⟨(released_release hquiet.tame).interruption_eq,
    order, hclosed.closings_eq, hnodup, ?_, ?_⟩
  · intro j
    rw [hmem, hnotClosed, eq_self, and_true]
  · simpa [hnotClosed, MeetsFromStart, Handles.MeetsFromStart] using hiff

/-! ## Two releases -/

/-- A bootstrap that fails, with a parent and two children of which some are tracked. -/
def familyOf (tracked : List Nat) : Attempt :=
  ⟨⟨Handles.ofList
      [Handle.make ⟨[.char 'p']⟩ none [[.say []], [.fail (.raised .value ⟨[.char 'e']⟩)]],
        Handle.make ⟨[.char 'a']⟩ (some 0) [[.say []]],
        Handle.make ⟨[.char 'b']⟩ (some 0) []],
    tracked⟩, .error (.raised .value ⟨[.char 'e']⟩)⟩

theorem parentOf_familyOf
    {tracked : List Nat} {k p : Nat} (h : (familyOf tracked).tracking.handles.parentOf k = some p) :
    0 < k ∧ p = 0 := by
  match k, h with
  | 1, h => exact ⟨by decide, (Option.some.inj h).symm⟩
  | 2, h => exact ⟨by decide, (Option.some.inj h).symm⟩

theorem not_ancestor_familyOf
    {tracked : List Nat} {j : Nat} : ¬(familyOf tracked).tracking.handles.Ancestor j 0 := by
  intro h
  obtain ⟨p, hp, -⟩ := Relation.TransGen.head'_iff.mp h
  exact absurd (parentOf_familyOf hp).1 (Nat.lt_irrefl 0)

theorem acyclic_familyOf (tracked : List Nat) : (familyOf tracked).tracking.handles.Acyclic := by
  intro i h
  obtain ⟨p, -, hp⟩ := Relation.TransGen.tail'_iff.mp h
  obtain ⟨-, rfl⟩ := parentOf_familyOf hp
  exact not_ancestor_familyOf h

/-- A child tracked after its parent is closed before it. -/
theorem release_child :
    (∀ h ∈ (familyOf [0, 1]).tracking.handles.handles, h.closed = false) ∧
    (familyOf [0, 1]).tracking.handles.Quiet ∧
    (familyOf [0, 1]).release.1.closings = [1, 0] ∧
    (familyOf [0, 1]).MeetsFromStart := by
  have hopen : ∀ h ∈ (familyOf [0, 1]).tracking.handles.handles, h.closed = false := by decide
  have hquiet : (familyOf [0, 1]).tracking.handles.Quiet := by
    unfold Handles.Quiet
    decide
  obtain ⟨-, order, horder, -, -, hiff⟩ :=
    release_childrenFirst_iff (familyOf [0, 1]) hopen hquiet (acyclic_familyOf _)
  have hclosings : (familyOf [0, 1]).release.1.closings = [1, 0] := by decide
  have heq : order = [1, 0] := horder.symm.trans hclosings
  refine ⟨hopen, hquiet, hclosings, hiff.mp ?_⟩
  rw [heq]
  exact List.pairwise_pair.mpr not_ancestor_familyOf

/--
Of two children that are tracked after their parent, the one that was tracked first is closed
after the parent: the walk from the other one has closed it.
-/
theorem release_siblings :
    (∀ h ∈ (familyOf [0, 1, 2]).tracking.handles.handles, h.closed = false) ∧
    (familyOf [0, 1, 2]).tracking.handles.Quiet ∧
    (familyOf [0, 1, 2]).tracking.handles.Acyclic ∧
    (familyOf [0, 1, 2]).tracking.handles.closings = [] ∧
    (familyOf [0, 1, 2]).release.1.closings = [2, 0, 1] ∧
    ¬(familyOf [0, 1, 2]).tracking.handles.ChildrenFirst [2, 0, 1] := by
  refine ⟨by decide, ?_, acyclic_familyOf _, rfl, by decide, ?_⟩
  · unfold Handles.Quiet
    decide
  · intro hfirst
    have hparent : (familyOf [0, 1, 2]).tracking.handles.Ancestor 0 1 := .single rfl
    have hpair := (List.pairwise_cons.mp hfirst).2
    exact List.pairwise_pair.mp hpair hparent

end Attempt

end LiveConfig
