import LiveConfig.Handle.Basic

/-!
# Closing handles

Closing a handle runs callbacks, which may close other handles and register further callbacks.
Whatever they do, handles only advance: none comes or goes, none gets another parent, and none is
opened again (`Handles.Advances`).

Callbacks are tame if no failure that they can raise is an interruption, also not one of the
callbacks that they register.  Closing tame handles leaves them tame and reports at most an
ordinary failure (`Handles.Closes`).

**Results.**
* `Handles.closes_close`: closing advances, and keeps tame handles tame.
* `Handles.isClosed_close`: a handle is closed after its closing.
-/

namespace LiveConfig

/-! ## Tame callbacks -/

namespace CloseAction

mutual

/-- Whether an action can lead to no interruption. -/
def isTame : CloseAction → Bool
  | say _ => true
  | fail failure => failure.isOrdinary
  | close _ => true
  | ask _ => true
  | onClose _ callback => areTame callback

/-- Whether some actions can lead to no interruption. -/
def areTame : List CloseAction → Bool
  | [] => true
  | action :: rest => action.isTame && areTame rest

end

end CloseAction

/-- Whether all callbacks of a handle are tame. -/
def Handle.isTame (h : Handle) : Bool :=
  h.callbacks.all CloseAction.areTame

namespace Handles

/-- All callbacks of all handles are tame. -/
def Tame (s : Handles) : Prop :=
  ∀ h ∈ s.handles, h.isTame = true

instance (s : Handles) : Decidable s.Tame :=
  inferInstanceAs (Decidable (∀ h ∈ s.handles, h.isTame = true))

def isClosed (s : Handles) (i : Nat) : Bool :=
  (s.get? i).any Handle.closed

def parentOf (s : Handles) (i : Nat) : Option Nat :=
  (s.get? i).bind Handle.parent

theorem get?_modify (s : Handles) (i : Nat) (f : Handle → Handle) (j : Nat) :
    (s.modify i f).get? j = (s.get? j).map (if i = j then f else id) := by
  rw [get?, Handles.modify, List.getElem?_modify]
  split <;> simp [get?]

theorem get?_modify_of_ne
    {s : Handles} {f : Handle → Handle} {i j : Nat} (h : i ≠ j) :
    (s.modify i f).get? j = s.get? j := by
  rw [get?_modify, if_neg h, Option.map_id]
  rfl

/-- A change that opens and closes nothing. -/
theorem isClosed_modify
    {s : Handles} {f : Handle → Handle} (hf : ∀ handle, (f handle).closed = handle.closed)
    (i j : Nat) : (s.modify i f).isClosed j = s.isClosed j := by
  unfold isClosed
  rw [get?_modify]
  cases s.get? j with
  | none => rfl
  | some handle =>
    rw [Option.map_some]
    split
    · exact hf handle
    · rfl

/-! ## What every change keeps -/

/-- The same handles with the same parents, none of them opened again. -/
structure Advances (s t : Handles) : Prop where
  length_eq : t.handles.length = s.handles.length
  parentOf_eq : ∀ i, t.parentOf i = s.parentOf i
  isClosed_of : ∀ i, s.isClosed i = true → t.isClosed i = true

namespace Advances

variable {s t u : Handles}

theorem refl (s : Handles) : s.Advances s :=
  ⟨rfl, fun _ => rfl, fun _ h => h⟩

theorem trans (h : s.Advances t) (h' : t.Advances u) : s.Advances u :=
  ⟨h'.length_eq.trans h.length_eq, fun i => (h'.parentOf_eq i).trans (h.parentOf_eq i),
    fun i hi => h'.isClosed_of i (h.isClosed_of i hi)⟩

/-- The history and the journal do not matter. -/
theorem of_handles_eq (h : t.handles = s.handles) : s.Advances t := by
  have hget (i : Nat) : t.get? i = s.get? i := congrArg (·[i]?) h
  refine ⟨congrArg List.length h, fun i => ?_, fun i hi => ?_⟩
  · rw [parentOf, hget]
    rfl
  · rw [isClosed, hget]
    exact hi

/-- A change of one handle that keeps its parent and does not open it. -/
theorem modify
    {f : Handle → Handle} (i : Nat)
    (hparent : ∀ h, (f h).parent = h.parent)
    (hclosed : ∀ h, h.closed = true → (f h).closed = true) :
    s.Advances (s.modify i f) := by
  refine ⟨List.length_modify .., fun j => ?_, fun j hj => ?_⟩
  · rw [parentOf, parentOf, get?_modify]
    cases s.get? j with
    | none => rfl
    | some h =>
      by_cases heq : i = j
      · rw [if_pos heq]
        exact hparent h
      · rw [if_neg heq]
        rfl
  · rw [isClosed] at hj ⊢
    rw [get?_modify]
    cases hs : s.get? j with
    | none => simp [hs] at hj
    | some h =>
      rw [hs] at hj
      by_cases heq : i = j
      · rw [if_pos heq]
        exact hclosed h hj
      · rw [if_neg heq]
        exact hj

end Advances

variable {s t : Handles}

theorem Tame.modify
    {f : Handle → Handle} (h : s.Tame) (i : Nat)
    (hf : ∀ handle, handle.isTame = true → (f handle).isTame = true) :
    (s.modify i f).Tame := by
  intro handle hmem
  obtain ⟨j, hj⟩ := List.getElem?_of_mem hmem
  rw [Handles.modify, List.getElem?_modify] at hj
  obtain ⟨old, hold, rfl⟩ := Option.map_eq_some_iff.mp hj
  have htame := h old (List.mem_of_getElem? hold)
  split
  · exact hf old htame
  · exact htame

/--
What a closing may lead to: handles only advance, and if all that can run is tame, they stay tame
and no more than an ordinary failure is reported.
-/
structure Closes (tame : Prop) (s : Handles) (c : Closing) : Prop where
  advances : s.Advances c.1
  tame_of : tame → c.1.Tame
  isOrdinary : tame → ∀ failure, c.2 = some failure → failure.isOrdinary = true

namespace Closes

variable {p q : Prop} {c : Closing}

/-- Nothing is reported. -/
theorem of_none (hadv : s.Advances t) (htame : p → t.Tame) : Closes p s (t, none) :=
  ⟨hadv, htame, fun _ _ h => nomatch h⟩

/-- Another change comes first. -/
theorem after (h : Closes q t c) (hadv : s.Advances t) (hq : p → q) : Closes p s c :=
  ⟨hadv.trans h.advances, fun hp => h.tame_of (hq hp), fun hp => h.isOrdinary (hq hp)⟩

end Closes

/-! ## Running callbacks -/

section Run

variable {close : Nat → Handles → Closing}
variable (hclose : ∀ (i : Nat) (s : Handles), Closes s.Tame s (close i s))
include hclose

theorem closes_runActions (actions : List CloseAction) (s : Handles) :
    Closes (s.Tame ∧ CloseAction.areTame actions = true) s (runActions close actions s) := by
  induction actions generalizing s with
  | nil => exact Closes.of_none (Advances.refl s) And.left
  | cons action rest ih =>
    have hrest (h : CloseAction.areTame (action :: rest) = true) :
        action.isTame = true ∧ CloseAction.areTame rest = true := by
      rwa [CloseAction.areTame, Bool.and_eq_true] at h
    cases action with
    | say items =>
      exact (ih (s.note (.said items))).after (Advances.of_handles_eq rfl)
        fun h => ⟨h.1, (hrest h.2).2⟩
    | fail failure =>
      refine ⟨Advances.refl s, And.left, ?_⟩
      rintro ⟨-, htame⟩ failure' ⟨⟩
      exact (hrest htame).1
    | close i =>
      have hi := hclose i s
      rw [runActions]
      split
      · rename_i t ht
        rw [ht] at hi
        exact (ih t).after hi.advances fun h => ⟨hi.tame_of h.1, (hrest h.2).2⟩
      · rename_i t failure ht
        rw [ht] at hi
        exact hi.after (Advances.refl s) And.left
    | ask i =>
      rw [runActions]
      split
      · exact (ih s).after (Advances.refl s) fun h => ⟨h.1, (hrest h.2).2⟩
      · rename_i h hget
        exact (ih (s.note (.handle h.name h.closed))).after (Advances.of_handles_eq rfl)
          fun h => ⟨h.1, (hrest h.2).2⟩
    | onClose i callback =>
      have hadv : s.Advances (s.onClose i callback) :=
        Advances.modify i (fun _ => rfl) fun _ h => h
      refine (ih (s.onClose i callback)).after hadv fun ⟨hs, htame⟩ => ⟨?_, (hrest htame).2⟩
      have hcallback : CloseAction.areTame callback = true := (hrest htame).1
      refine hs.modify i fun h hh => ?_
      rw [Handle.isTame] at hh ⊢
      rw [Handle.register, List.all_append, hh, List.all_cons, hcallback]
      rfl

theorem closes_runCallbacks
    (i : Nat) (callbacks : List (List CloseAction × Nat)) (first : Option Failure)
    (s : Handles) :
    Closes
      (s.Tame ∧ (∀ e ∈ callbacks, CloseAction.areTame e.1 = true) ∧
        ∀ failure, first = some failure → failure.isOrdinary = true)
      s (runCallbacks close i callbacks first s) := by
  induction callbacks generalizing first s with
  | nil => exact ⟨Advances.refl s, And.left, fun h => h.2.2⟩
  | cons e rest ih =>
    obtain ⟨callback, position⟩ := e
    have hrun := closes_runActions hclose callback (s.recordEvent (.started i position))
    have hadv : s.Advances (s.recordEvent (.started i position)) := Advances.of_handles_eq rfl
    rw [runCallbacks]
    split
    · rename_i t ht
      rw [ht] at hrun
      refine (ih first t).after (hadv.trans hrun.advances) fun ⟨hs, htame, hfirst⟩ => ?_
      exact ⟨hrun.tame_of ⟨hs, htame _ List.mem_cons_self⟩,
        fun e he => htame e (List.mem_cons_of_mem _ he), hfirst⟩
    · rename_i t failure ht
      rw [ht] at hrun
      split
      · rename_i hord
        refine (ih (first.or (some failure)) t).after (hadv.trans hrun.advances)
          fun ⟨hs, htame, hfirst⟩ => ?_
        refine ⟨hrun.tame_of ⟨hs, htame _ List.mem_cons_self⟩,
          fun e he => htame e (List.mem_cons_of_mem _ he), ?_⟩
        cases first with
        | none =>
          rintro failure' ⟨⟩
          exact hord
        | some f => exact hfirst
      · exact hrun.after hadv fun ⟨hs, htame, _⟩ => ⟨hs, htame _ List.mem_cons_self⟩

end Run

/-! ## Closing -/

theorem closes_finish
    {p : Prop} {c : Closing} (i : Nat) (h : Closes p s c) : Closes p s (finish i c) := by
  obtain ⟨t, failure⟩ := c
  have hadv : t.Advances (t.modify i Handle.clearCallbacks) :=
    Advances.modify i (fun _ => rfl) fun _ h => h
  have htame : t.Tame → (t.modify i Handle.clearCallbacks).Tame := fun ht =>
    ht.modify i fun _ _ => rfl
  have hclear : Closes p s (t.modify i Handle.clearCallbacks, failure) :=
    ⟨h.advances.trans hadv, fun hp => htame (h.tame_of hp), h.isOrdinary⟩
  cases failure with
  | none => exact hclear
  | some failure =>
    rw [finish]
    split
    · exact hclear
    · exact h

theorem Tame.markClosed (h : s.Tame) (i : Nat) : (s.markClosed i).Tame :=
  h.modify i fun _ hh => hh

theorem advances_markClosed (s : Handles) (i : Nat) : s.Advances (s.markClosed i) := by
  have hmodify : s.Advances (s.modify i Handle.markClosed) :=
    Advances.modify i (fun _ => rfl) fun _ _ => rfl
  exact hmodify.trans (Advances.of_handles_eq rfl)

theorem isClosed_markClosed
    {i : Nat} (hi : i < s.handles.length) : (s.markClosed i).isClosed i = true := by
  have hget : (s.markClosed i).get? i = some (s.handles[i]).markClosed := by
    simp [get?, Handles.markClosed, recordEvent, Handles.modify, hi]
  rw [isClosed, hget]
  rfl

/-- The callbacks of a tame handle, with their positions, are tame. -/
theorem areTame_of_mem_zipIdx
    {h : Handle} (htame : h.isTame = true) :
    ∀ e ∈ h.callbacks.zipIdx.reverse, CloseAction.areTame e.1 = true := by
  intro e he
  exact List.all_eq_true.mp htame e.1 (List.fst_mem_of_mem_zipIdx (List.mem_reverse.mp he))

theorem closes_closeWithin (n i : Nat) (s : Handles) :
    Closes s.Tame s (closeWithin n i s) := by
  induction n generalizing i s with
  | zero => exact Closes.of_none (Advances.refl s) id
  | succ n ih =>
    rw [closeWithin]
    split
    · exact Closes.of_none (Advances.refl s) id
    · rename_i h hget
      split
      · exact Closes.of_none (Advances.refl s) id
      · refine closes_finish i ?_
        refine (closes_runCallbacks ih i _ none _).after (advances_markClosed s i) fun hs => ?_
        refine ⟨hs.markClosed i, ?_, fun _ h => nomatch h⟩
        exact areTame_of_mem_zipIdx (hs h (List.mem_of_getElem? hget))

theorem closes_close (i : Nat) (s : Handles) :
    Closes s.Tame s (s.close i) :=
  closes_closeWithin _ i s

/-- Closing a closed handle does nothing. -/
theorem close_of_isClosed {i : Nat} (h : s.isClosed i = true) : s.close i = (s, none) := by
  unfold close
  cases s.openCount with
  | zero => rfl
  | succ n =>
    rw [closeWithin]
    cases hget : s.get? i with
    | none => rfl
    | some handle =>
      have hclosed : handle.closed = true := by simpa [isClosed, hget] using h
      simp [hclosed]

/-- Closing an open handle marks it and runs its callbacks. -/
theorem exists_close_eq
    {i : Nat} {handle : Handle} (hget : s.get? i = some handle) (hopen : handle.closed = false) :
    ∃ n, s.close i =
      finish i (runCallbacks (closeWithin n) i handle.callbacks.zipIdx.reverse none
        (s.markClosed i)) := by
  have hcount : 0 < s.openCount :=
    List.countP_pos_iff.mpr ⟨handle, List.mem_of_getElem? hget, by simp [hopen]⟩
  -- one step is left for the handle itself
  obtain ⟨n, hn⟩ := Nat.exists_eq_add_one_of_ne_zero (Nat.ne_of_gt hcount)
  refine ⟨n, ?_⟩
  unfold close
  rw [hn, closeWithin]
  simp [hget, hopen]

/-- A handle is closed after its closing, whatever its callbacks did. -/
theorem isClosed_close
    {i : Nat} (hi : i < s.handles.length) : (s.close i).1.isClosed i = true := by
  have hget : s.get? i = some s.handles[i] := List.getElem?_eq_getElem hi
  by_cases hclosed : s.isClosed i = true
  · exact (closes_close i s).advances.isClosed_of i hclosed
  · have hopen : s.handles[i].closed = false := by
      simpa [isClosed, hget] using hclosed
    obtain ⟨n, hrun⟩ := exists_close_eq hget hopen
    rw [hrun]
    -- what the callbacks do comes after the mark
    have hcallbacks := closes_runCallbacks (closes_closeWithin n) i
      s.handles[i].callbacks.zipIdx.reverse none (s.markClosed i)
    exact (closes_finish i hcallbacks).advances.isClosed_of i (isClosed_markClosed hi)

end Handles

end LiveConfig
