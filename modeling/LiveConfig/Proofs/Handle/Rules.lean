import LiveConfig.Proofs.Handle.Closing
import Mathlib.Data.List.Basic

/-!
# Closing by rules

Callbacks close handles, whose callbacks close handles in turn, over any graph and back to where
they came from.  `Handles.RunsClose` and its companions say by rules what this does, one rule for
each way to go on, and with no bound on the depth.  A derivation by the rules is finite, so a closing
with a derivation comes to an end.

Every closing has one: a handle is marked before its callbacks run, so whatever they close is closed
with fewer open handles (`Handles.openCount_markClosed`).  For the same reason `Handles.close`,
which is given a depth, never runs out of it.

**Results.**
* `Handles.close_of_open`: what closing an open handle does, said by `Handles.close` itself.
* `Handles.runsClose_iff`: every closing has a derivation, and only one outcome.
-/

namespace LiveConfig

namespace Handles

variable {s t : Handles} {i : Nat} {handle : Handle} {c : Closing}

/-! ## Open handles -/

theorem countP_le_of_getElem?
    {α : Type} {p : α → Bool} :
    ∀ {l l' : List α}, l'.length = l.length →
      (∀ (i : Nat) (a b : α), l[i]? = some a → l'[i]? = some b → p b = true → p a = true) →
      l'.countP p ≤ l.countP p
  | [], [], _, _ => Nat.le_refl _
  | a :: l, b :: l', hlength, h => by
    have hrest : l'.countP p ≤ l.countP p :=
      countP_le_of_getElem? (Nat.succ.inj hlength) fun i => h (i + 1)
    rw [List.countP_cons, List.countP_cons]
    by_cases hb : p b = true
    · rw [if_pos hb, if_pos (h 0 a b rfl rfl hb)]
      omega
    · rw [if_neg hb]
      omega

/-- Whatever advances opens nothing. -/
theorem Advances.openCount_le (h : s.Advances t) : t.openCount ≤ s.openCount := by
  refine countP_le_of_getElem? h.length_eq fun i a b ha hb hopen => ?_
  have hclosed := h.isClosed_of i
  unfold isClosed get? at hclosed
  rw [ha, hb] at hclosed
  revert hclosed hopen
  cases hac : a.closed <;> simp [hac]

/-- A handle that is marked is open no more. -/
theorem openCount_markClosed (hget : s.get? i = some handle) (hopen : handle.closed = false) :
    (s.markClosed i).openCount + 1 = s.openCount := by
  obtain ⟨hi, hhandle⟩ := List.getElem?_eq_some_iff.mp hget
  have hpos : 0 < s.openCount :=
    List.countP_pos_iff.mpr ⟨handle, List.mem_of_getElem? hget, by simp [hopen]⟩
  have hset : (s.markClosed i).handles = s.handles.set i handle.markClosed := by
    show s.handles.modify i Handle.markClosed = _
    rw [List.modify_eq_set_getElem?, List.getElem?_eq_getElem hi, hhandle]
    rfl
  unfold openCount at hpos ⊢
  rw [hset, List.countP_set hi, hhandle]
  simp [hopen, Handle.markClosed]
  omega

/-- Where no handle is open, none that there is can be open. -/
theorem closed_of_openCount_eq_zero
    (hzero : s.openCount = 0) (hget : s.get? i = some handle) : handle.closed = true := by
  have hnone := List.countP_eq_zero.mp hzero handle (List.mem_of_getElem? hget)
  simpa using hnone

/-! ## Depth -/

section Depth

variable {close close' : Nat → Handles → Closing} {n : Nat}
variable (hclose : ∀ (i : Nat) (s : Handles), Closes s.Tame s (close i s))
variable (hsame : ∀ (i : Nat) (s : Handles), s.openCount ≤ n → close i s = close' i s)
include hclose hsame

/-- Actions run alike with ways to close that agree where few handles are open. -/
theorem runActions_congr (actions : List CloseAction) {s : Handles} (hs : s.openCount ≤ n) :
    runActions close actions s = runActions close' actions s := by
  induction actions generalizing s with
  | nil => rfl
  | cons action rest ih =>
    cases action with
    | say items => exact ih (s := s.note (.said items)) hs
    | fail failure => rfl
    | close i =>
      have hadv := (hclose i s).advances
      rw [runActions, runActions, ← hsame i s hs]
      split
      · rename_i t ht
        rw [ht] at hadv
        exact ih (Nat.le_trans hadv.openCount_le hs)
      · rfl
    | ask i =>
      rw [runActions, runActions]
      split
      · exact ih hs
      · rename_i h _
        exact ih (s := s.note (.handle h.name h.closed)) hs
    | onClose i callback =>
      have hadv : s.Advances (s.onClose i callback) := Advances.modify i (fun _ => rfl) fun _ h => h
      exact ih (Nat.le_trans hadv.openCount_le hs)

theorem runCallbacks_congr
    (i : Nat) (callbacks : List (List CloseAction × Nat)) (first : Option Failure) {s : Handles}
    (hs : s.openCount ≤ n) :
    runCallbacks close i callbacks first s = runCallbacks close' i callbacks first s := by
  induction callbacks generalizing first s with
  | nil => rfl
  | cons e rest ih =>
    obtain ⟨callback, position⟩ := e
    have hadv : s.Advances (s.recordEvent (.started i position)) := Advances.of_handles_eq rfl
    have hstarted := Nat.le_trans hadv.openCount_le hs
    have hrun := (closes_runActions hclose callback (s.recordEvent (.started i position))).advances
    rw [runCallbacks, runCallbacks, ← runActions_congr hclose hsame callback hstarted]
    split
    · rename_i t ht
      rw [ht] at hrun
      exact ih first (Nat.le_trans hrun.openCount_le hstarted)
    · rename_i t failure ht
      rw [ht] at hrun
      split
      · exact ih _ (Nat.le_trans hrun.openCount_le hstarted)
      · rfl

end Depth

theorem closeWithin_of_openCount_eq_zero (n i : Nat) (hzero : s.openCount = 0) :
    closeWithin n i s = (s, none) := by
  cases n with
  | zero => rfl
  | succ n =>
    rw [closeWithin]
    split
    · rfl
    · rename_i h hget
      rw [if_pos (closed_of_openCount_eq_zero hzero hget)]

/-- A depth that allows for every open handle is never used up. -/
theorem closeWithin_eq_closeWithin
    {n m i : Nat} {s : Handles} (hn : s.openCount ≤ n) (hm : s.openCount ≤ m) :
    closeWithin n i s = closeWithin m i s := by
  induction n generalizing m i s with
  | zero =>
    rw [closeWithin_of_openCount_eq_zero 0 i (Nat.le_zero.mp hn),
      closeWithin_of_openCount_eq_zero m i (Nat.le_zero.mp hn)]
  | succ n ih =>
    cases m with
    | zero =>
      rw [closeWithin_of_openCount_eq_zero _ i (Nat.le_zero.mp hm),
        closeWithin_of_openCount_eq_zero 0 i (Nat.le_zero.mp hm)]
    | succ m =>
      rw [closeWithin, closeWithin]
      split
      · rfl
      · rename_i h hget
        split
        · rfl
        · rename_i hopen
          -- the mark takes one open handle away, and one level of the depth goes with it
          have hmarked := openCount_markClosed hget (Bool.eq_false_iff.mpr hopen)
          have hn' : (s.markClosed i).openCount ≤ n := by omega
          have hm' : (s.markClosed i).openCount ≤ m := by omega
          rw [runCallbacks_congr (n := min n m) (closes_closeWithin n)
            (fun j t ht => ih (Nat.le_trans ht (Nat.min_le_left n m))
              (Nat.le_trans ht (Nat.min_le_right n m)))
            i _ none (Nat.le_min.mpr ⟨hn', hm'⟩)]

theorem closeWithin_eq_close {n : Nat} (hn : s.openCount ≤ n) (i : Nat) :
    closeWithin n i s = s.close i :=
  closeWithin_eq_closeWithin hn (Nat.le_refl _)

theorem close_of_absent (hget : s.get? i = none) : s.close i = (s, none) := by
  rw [← closeWithin_eq_close (Nat.le_succ s.openCount), closeWithin]
  simp only [hget]

/-- Closing an open handle marks it and runs its callbacks, which close handles in the same way. -/
theorem close_of_open (hget : s.get? i = some handle) (hopen : handle.closed = false) :
    s.close i =
      finish i (runCallbacks close i handle.callbacks.zipIdx.reverse none (s.markClosed i)) := by
  have hmarked := openCount_markClosed hget hopen
  rw [← closeWithin_eq_close (Nat.le_of_eq hmarked.symm), closeWithin]
  simp only [hget, hopen, Bool.false_eq_true, if_false]
  rw [runCallbacks_congr (closes_closeWithin _) (fun j t ht => closeWithin_eq_close ht j)
    i _ none (Nat.le_refl _)]

/-! ## Rules -/

mutual

/-- Actions run one after another up to the first failure. -/
inductive RunsActions : List CloseAction → Handles → Closing → Prop
  | done (s : Handles) : RunsActions [] s (s, none)
  | say
      {items : List Value} {rest : List CloseAction} {s : Handles} {c : Closing}
      (hrest : RunsActions rest (s.note (.said items)) c) :
    RunsActions (.say items :: rest) s c
  | fail (failure : Failure) (rest : List CloseAction) (s : Handles) :
    RunsActions (.fail failure :: rest) s (s, some failure)
  | close
      {i : Nat} {rest : List CloseAction} {s t : Handles} {c : Closing}
      (hclose : RunsClose i s (t, none)) (hrest : RunsActions rest t c) :
    RunsActions (.close i :: rest) s c
  | closeFails
      {i : Nat} {rest : List CloseAction} {s t : Handles} {failure : Failure}
      (hclose : RunsClose i s (t, some failure)) :
    RunsActions (.close i :: rest) s (t, some failure)
  | ask
      {i : Nat} {rest : List CloseAction} {s : Handles} {h : Handle} {c : Closing}
      (hget : s.get? i = some h) (hrest : RunsActions rest (s.note (.handle h.name h.closed)) c) :
    RunsActions (.ask i :: rest) s c
  | askAbsent
      {i : Nat} {rest : List CloseAction} {s : Handles} {c : Closing}
      (hget : s.get? i = none) (hrest : RunsActions rest s c) :
    RunsActions (.ask i :: rest) s c
  | onClose
      {i : Nat} {callback rest : List CloseAction} {s : Handles} {c : Closing}
      (hrest : RunsActions rest (s.onClose i callback) c) :
    RunsActions (.onClose i callback :: rest) s c

/-- Callbacks run one after another; the first ordinary failure is kept, an interruption ends it. -/
inductive RunsCallbacks :
    Nat → List (List CloseAction × Nat) → Option Failure → Handles → Closing → Prop
  | done (i : Nat) (first : Option Failure) (s : Handles) : RunsCallbacks i [] first s (s, first)
  | returns
      {i position : Nat} {callback : List CloseAction} {rest : List (List CloseAction × Nat)}
      {first : Option Failure} {s t : Handles} {c : Closing}
      (hrun : RunsActions callback (s.recordEvent (.started i position)) (t, none))
      (hrest : RunsCallbacks i rest first t c) :
    RunsCallbacks i ((callback, position) :: rest) first s c
  | fails
      {i position : Nat} {callback : List CloseAction} {rest : List (List CloseAction × Nat)}
      {first : Option Failure} {s t : Handles} {failure : Failure} {c : Closing}
      (hrun : RunsActions callback (s.recordEvent (.started i position)) (t, some failure))
      (hordinary : failure.isOrdinary = true)
      (hrest : RunsCallbacks i rest (first.or (some failure)) t c) :
    RunsCallbacks i ((callback, position) :: rest) first s c
  | interrupts
      {i position : Nat} {callback : List CloseAction} {rest : List (List CloseAction × Nat)}
      {first : Option Failure} {s t : Handles} {failure : Failure}
      (hrun : RunsActions callback (s.recordEvent (.started i position)) (t, some failure))
      (hinterrupt : failure.isOrdinary = false) :
    RunsCallbacks i ((callback, position) :: rest) first s (t, some failure)

/-- A handle that is found open is marked, and its callbacks run, the one registered last first. -/
inductive RunsClose : Nat → Handles → Closing → Prop
  | absent {i : Nat} {s : Handles} (hget : s.get? i = none) : RunsClose i s (s, none)
  | closed
      {i : Nat} {s : Handles} {h : Handle} (hget : s.get? i = some h) (hclosed : h.closed = true) :
    RunsClose i s (s, none)
  | opened
      {i : Nat} {s : Handles} {h : Handle} {c : Closing}
      (hget : s.get? i = some h) (hopen : h.closed = false)
      (hrun : RunsCallbacks i h.callbacks.zipIdx.reverse none (s.markClosed i) c) :
    RunsClose i s (finish i c)

end

/-! ## Derivations -/

section Derive

variable {n : Nat}
variable (hclose : ∀ (i : Nat) (s : Handles), s.openCount ≤ n → RunsClose i s (s.close i))
include hclose

theorem runsActions_runActions (actions : List CloseAction) {s : Handles} (hs : s.openCount ≤ n) :
    RunsActions actions s (runActions close actions s) := by
  induction actions generalizing s with
  | nil => exact .done s
  | cons action rest ih =>
    cases action with
    | say items => exact .say (ih (s := s.note (.said items)) hs)
    | fail failure => exact .fail failure rest s
    | close i =>
      have hi := hclose i s hs
      have hadv := (closes_close i s).advances
      rw [runActions]
      split
      · rename_i t ht
        rw [ht] at hi hadv
        exact .close hi (ih (Nat.le_trans hadv.openCount_le hs))
      · rename_i t failure ht
        rw [ht] at hi
        exact .closeFails hi
    | ask i =>
      rw [runActions]
      split
      · rename_i hget
        exact .askAbsent hget (ih hs)
      · rename_i h hget
        exact .ask hget (ih (s := s.note (.handle h.name h.closed)) hs)
    | onClose i callback =>
      have hadv : s.Advances (s.onClose i callback) := Advances.modify i (fun _ => rfl) fun _ h => h
      exact .onClose (ih (Nat.le_trans hadv.openCount_le hs))

theorem runsCallbacks_runCallbacks
    (i : Nat) (callbacks : List (List CloseAction × Nat)) (first : Option Failure) {s : Handles}
    (hs : s.openCount ≤ n) :
    RunsCallbacks i callbacks first s (runCallbacks close i callbacks first s) := by
  induction callbacks generalizing first s with
  | nil => exact .done i first s
  | cons e rest ih =>
    obtain ⟨callback, position⟩ := e
    have hadv : s.Advances (s.recordEvent (.started i position)) := Advances.of_handles_eq rfl
    have hstarted := Nat.le_trans hadv.openCount_le hs
    have hrun := runsActions_runActions hclose callback hstarted
    have hadv' :=
      (closes_runActions closes_close callback (s.recordEvent (.started i position))).advances
    rw [runCallbacks]
    split
    · rename_i t ht
      rw [ht] at hrun hadv'
      exact .returns hrun (ih first (Nat.le_trans hadv'.openCount_le hstarted))
    · rename_i t failure ht
      rw [ht] at hrun hadv'
      split
      · rename_i hordinary
        exact .fails hrun hordinary (ih _ (Nat.le_trans hadv'.openCount_le hstarted))
      · rename_i hinterrupt
        exact .interrupts hrun (Bool.eq_false_iff.mpr hinterrupt)

end Derive

/-- Every closing comes to an end, since closings nested in it find fewer handles open. -/
theorem runsClose_close (i : Nat) (s : Handles) : RunsClose i s (s.close i) := by
  induction hn : s.openCount using Nat.strongRecOn generalizing i s with
  | _ n ih =>
    cases hget : s.get? i with
    | none =>
      rw [close_of_absent hget]
      exact .absent hget
    | some handle =>
      cases hclosed : handle.closed with
      | true =>
        rw [close_of_isClosed (by simp [isClosed, hget, hclosed])]
        exact .closed hget hclosed
      | false =>
        have hmarked := openCount_markClosed hget hclosed
        rw [close_of_open hget hclosed]
        refine .opened hget hclosed (runsCallbacks_runCallbacks (fun j t ht => ?_) i _ none
          (Nat.le_refl _))
        exact ih t.openCount (by omega) j t rfl

mutual

theorem RunsActions.eq_runActions
    {actions : List CloseAction} {s : Handles} {c : Closing} :
    RunsActions actions s c → runActions close actions s = c
  | .done _ => rfl
  | .say hrest => hrest.eq_runActions
  | .fail _ _ _ => rfl
  | .close hclose hrest => by
    rw [runActions, hclose.eq_close]
    exact hrest.eq_runActions
  | .closeFails hclose => by rw [runActions, hclose.eq_close]
  | .ask hget hrest => by
    rw [runActions, hget]
    exact hrest.eq_runActions
  | .askAbsent hget hrest => by
    rw [runActions, hget]
    exact hrest.eq_runActions
  | .onClose hrest => hrest.eq_runActions

theorem RunsCallbacks.eq_runCallbacks
    {i : Nat} {callbacks : List (List CloseAction × Nat)} {first : Option Failure} {s : Handles}
    {c : Closing} :
    RunsCallbacks i callbacks first s c → runCallbacks close i callbacks first s = c
  | .done _ _ _ => rfl
  | .returns hrun hrest => by
    rw [runCallbacks, hrun.eq_runActions]
    exact hrest.eq_runCallbacks
  | .fails hrun hordinary hrest => by
    rw [runCallbacks, hrun.eq_runActions]
    simp only [hordinary, if_true]
    exact hrest.eq_runCallbacks
  | .interrupts hrun hinterrupt => by
    rw [runCallbacks, hrun.eq_runActions]
    simp [hinterrupt]

theorem RunsClose.eq_close {i : Nat} {s : Handles} {c : Closing} : RunsClose i s c → s.close i = c
  | .absent hget => close_of_absent hget
  | .closed hget hclosed => close_of_isClosed (by simp [isClosed, hget, hclosed])
  | .opened hget hopen hrun => by rw [close_of_open hget hopen, hrun.eq_runCallbacks]

end

/-- **Closing terminates**, and it has one outcome. -/
theorem runsClose_iff : RunsClose i s c ↔ s.close i = c :=
  ⟨RunsClose.eq_close, fun h => h ▸ runsClose_close i s⟩

end Handles

end LiveConfig
