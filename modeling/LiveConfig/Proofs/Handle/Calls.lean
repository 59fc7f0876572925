import LiveConfig.Proofs.Handle.History
import LiveConfig.Proofs.Handle.Rules
import Mathlib.Data.List.Nodup

/-!
# Calls on handles

From outside, callbacks are registered on handles and handles are closed, call after call and
whether or not a call fails (`Handles.runCalls`).  Callbacks do the same from within.  What remains
to be run at some moment is a course: further calls, the rest of a callback, or further callbacks of
a handle (`Handles.Course`).

A registered callback is known by its handle and its position among the callbacks of that handle:
while a handle is open, its callbacks only get more at the end.  Those of a closed handle are spent.
They can be forgotten at any moment, and nothing that runs later shows it (`Handles.unspent`).

**Results.**
* `Handles.close_eq_turns`: a closing gives each callback its turn and reports the first failure.
* `Handles.count_history_runCalls`: no handle is closed twice, and no callback started twice.
* `Handles.sameClosing_close`: callbacks of closed handles have no part in a closing.
* `Handles.closing_once`: all of this, with termination.
-/

namespace LiveConfig

/-- A call on a handle from outside. -/
inductive HandleCall
  | onClose (handle : Nat) (callback : List CloseAction)
  | close (handle : Nat)

namespace Handle

/-- A handle without the callbacks that its closing has spent. -/
def unspent (h : Handle) : Handle :=
  if h.closed then h.clearCallbacks else h

end Handle

namespace Handles

/-- Carries a call out. -/
def runCall : HandleCall → Handles → Closing
  | .onClose i callback, s => (s.onClose i callback, none)
  | .close i, s => s.close i

/-- Carries calls out one after another, with the failure that each of them reports. -/
def runCalls : List HandleCall → Handles → Handles × List (Option Failure)
  | [], s => (s, [])
  | call :: rest, s =>
    let c := runCall call s
    let (t, failures) := runCalls rest c.1
    (t, c.2 :: failures)

variable {s t u : Handles} {c d : Closing} {i j : Nat} {handle : Handle}

/-! ## Turns -/

/-- The turns of callbacks, each from where the turn before has left the handles. -/
def turns (i : Nat) : List (List CloseAction × Nat) → Handles → List Closing
  | [], _ => []
  | (callback, position) :: rest, s =>
    let c := runActions close callback (s.recordEvent (.started i position))
    c :: turns i rest c.1

/-- Where some turns leave the handles. -/
def stateAfter (s : Handles) : List Closing → Handles
  | [] => s
  | c :: rest => stateAfter c.1 rest

/-- Callbacks that are not interrupted all have their turn, and the first failure is kept. -/
theorem runCallbacks_eq_turns
    {callbacks : List (List CloseAction × Nat)} {first : Option Failure}
    (h : Uninterrupted (runCallbacks close i callbacks first s)) :
    runCallbacks close i callbacks first s =
      (stateAfter s (turns i callbacks s),
        first.or ((turns i callbacks s).findSome? Prod.snd)) := by
  induction callbacks generalizing first s with
  | nil => exact congrArg (Prod.mk s) (Option.or_none).symm
  | cons e rest ih =>
    obtain ⟨callback, position⟩ := e
    rw [runCallbacks] at h ⊢
    rw [turns, stateAfter, List.findSome?_cons]
    generalize runActions close callback (s.recordEvent (.started i position)) = c at h ⊢
    obtain ⟨t, failure⟩ := c
    cases failure with
    | none => exact ih h
    | some failure =>
      dsimp only at h ⊢
      split at h
      · rename_i hordinary
        rw [if_pos hordinary, ih h, Option.or_assoc]
        rfl
      · rename_i hinterrupt
        exact absurd (h failure rfl) hinterrupt

theorem finish_of_uninterrupted (h : Uninterrupted c) :
    finish i c = (c.1.modify i Handle.clearCallbacks, c.2) := by
  obtain ⟨t, failure⟩ := c
  cases failure with
  | none => rfl
  | some failure => exact if_pos (h failure rfl)

/-- An open handle is marked, its callbacks have their turns, and the first failure is reported. -/
theorem close_eq_turns
    (hget : s.get? i = some handle) (hopen : handle.closed = false)
    (h : Uninterrupted (s.close i)) :
    s.close i =
      ((stateAfter (s.markClosed i)
          (turns i handle.callbacks.zipIdx.reverse (s.markClosed i))).modify i
        Handle.clearCallbacks,
        (turns i handle.callbacks.zipIdx.reverse (s.markClosed i)).findSome? Prod.snd) := by
  have hclose := close_of_open hget hopen
  rw [hclose] at h ⊢
  have hrun := uninterrupted_finish_iff.mp h
  rw [finish_of_uninterrupted hrun, runCallbacks_eq_turns hrun, Option.none_or]

/-! ## What happens, and how often -/

theorem ran_runCall (call : HandleCall) (s : Handles) : Ran anyHandle s (runCall call s) := by
  cases call with
  | onClose i callback => exact ran_onClose i callback s
  | close i => exact ran_close i s

theorem advances_runCalls (calls : List HandleCall) (s : Handles) :
    s.Advances (runCalls calls s).1 := by
  induction calls generalizing s with
  | nil => exact Advances.refl s
  | cons call rest ih => exact (ran_runCall call s).advances.trans (ih _)

/-- The events of a handle in a run of calls are those of one closing, if there are any. -/
theorem exists_eventsOf_runCalls (calls : List HandleCall) (s : Handles) (j : Nat) :
    ∃ n events,
      (runCalls calls s).1.eventsOf j = s.eventsOf j ++ events ∧
      events <+: closingEvents j n ∧
      (s.isClosed j = true → events = []) := by
  induction calls generalizing s with
  | nil => exact ⟨0, [], (List.append_nil _).symm, List.nil_prefix, fun _ => rfl⟩
  | cons call rest ih =>
    have hcall := (ran_runCall call s).ranAt j trivial
    obtain ⟨n, events, hrest, hprefix, hnone⟩ := ih (runCall call s).1
    show ∃ n events, (runCalls rest (runCall call s).1).1.eventsOf j = _ ∧ _
    cases hbefore : s.isClosed j with
    | true =>
      have hafter := (ran_runCall call s).advances.isClosed_of j hbefore
      refine ⟨n, [], ?_, List.nil_prefix, fun _ => rfl⟩
      rw [hrest, hnone hafter, List.append_nil, List.append_nil, hcall.of_closed hbefore]
    | false =>
      cases hafter : (runCall call s).1.isClosed j with
      | true =>
        -- the call has closed the handle, so the rest adds nothing to its events
        obtain ⟨n', events', -, hevents, hprefix', -⟩ := hcall.closing hbefore hafter
        refine ⟨n', events', ?_, hprefix', fun h => nomatch h⟩
        rw [hrest, hnone hafter, List.append_nil, hevents]
      | false =>
        exact ⟨n, events, by rw [hrest, (hcall.of_open hafter).1], hprefix, fun h => nomatch h⟩

theorem nodup_closingEvents (j n : Nat) : (closingEvents j n).Nodup := by
  refine List.nodup_cons.mpr ⟨?_, ?_⟩
  · intro hmem
    obtain ⟨p, -, hp⟩ := List.mem_map.mp hmem
    cases hp
  · refine List.Nodup.map (fun p q hpq => ?_) (List.nodup_reverse.mpr List.nodup_range)
    exact (HandleEvent.started.inj hpq).2

theorem count_history (s : Handles) (e : HandleEvent) :
    s.history.count e = (s.eventsOf e.handle).count e := by
  unfold eventsOf
  exact (List.count_filter (by simp)).symm

/-- Nothing happens twice in a run of calls, and nothing more to a closed handle. -/
theorem count_history_runCalls (calls : List HandleCall) (s : Handles) (e : HandleEvent) :
    (runCalls calls s).1.history.count e ≤ s.history.count e + 1 ∧
      (s.isClosed e.handle = true →
        (runCalls calls s).1.history.count e = s.history.count e) := by
  obtain ⟨n, events, hevents, hprefix, hnone⟩ := exists_eventsOf_runCalls calls s e.handle
  rw [count_history, count_history, hevents, List.count_append]
  refine ⟨Nat.add_le_add_left ?_ _, fun hclosed => by rw [hnone hclosed]; rfl⟩
  exact List.nodup_iff_count_le_one.mp ((nodup_closingEvents _ n).sublist hprefix.sublist) e

/-- While a handle is open, its callbacks only get more at the end. -/
theorem callbacksOf_prefix_runCalls
    (calls : List HandleCall) (s : Handles) (hopen : (runCalls calls s).1.isClosed j = false) :
    s.callbacksOf j <+: (runCalls calls s).1.callbacksOf j := by
  induction calls generalizing s with
  | nil => exact List.prefix_refl _
  | cons call rest ih =>
    have hmid : (runCall call s).1.isClosed j = false := by
      refine Bool.eq_false_iff.mpr fun hclosed => ?_
      have hlast := (advances_runCalls rest (runCall call s).1).isClosed_of j hclosed
      rw [runCalls, hlast] at hopen
      cases hopen
    exact (((ran_runCall call s).ranAt j trivial).of_open hmid).2.trans (ih _ hopen)

/-! ## Spent callbacks -/

/-- The handles without the callbacks of those that are closed. -/
def unspent (s : Handles) : Handles :=
  { s with handles := s.handles.map Handle.unspent }

/-- Two closings that differ in nothing but the callbacks of closed handles. -/
structure SameClosing (c d : Closing) : Prop where
  unspent_eq : c.1.unspent = d.1.unspent
  failure_eq : c.2 = d.2

theorem SameClosing.of_unspent_eq (h : s.unspent = t.unspent) (failure : Option Failure) :
    SameClosing (s, failure) (t, failure) :=
  ⟨h, rfl⟩

theorem unspent_eq_iff :
    s.unspent = t.unspent ↔
      s.history = t.history ∧ s.journal = t.journal ∧
        ∀ i, (s.get? i).map Handle.unspent = (t.get? i).map Handle.unspent := by
  have hmap (u : Handles) (i : Nat) :
      (u.get? i).map Handle.unspent = (u.handles.map Handle.unspent)[i]? := List.getElem?_map.symm
  simp only [hmap]
  constructor
  · intro h
    exact ⟨congrArg (·.history) h, congrArg (·.journal) h, fun i => congrArg (·.handles[i]?) h⟩
  · rintro ⟨hhistory, hjournal, hget⟩
    unfold unspent
    rw [List.ext_getElem? hget, hhistory, hjournal]

theorem closed_unspent (h : Handle) : h.unspent.closed = h.closed := by
  unfold Handle.unspent
  split <;> rfl

theorem name_unspent (h : Handle) : h.unspent.name = h.name := by
  unfold Handle.unspent
  split <;> rfl

theorem unspent_of_open (hopen : handle.closed = false) : handle.unspent = handle := by
  rw [Handle.unspent, hopen]
  rfl

theorem openCount_unspent (s : Handles) : s.unspent.openCount = s.openCount := by
  unfold openCount unspent
  rw [List.countP_map]
  exact congrArg (fun p => s.handles.countP p) (funext fun h => congrArg not (closed_unspent h))

theorem get?_eq_none_of_unspent_eq (h : s.unspent = t.unspent) (hget : s.get? i = none) :
    t.get? i = none := by
  have hsame := (unspent_eq_iff.mp h).2.2 i
  rw [hget] at hsame
  exact Option.map_eq_none_iff.mp hsame.symm

theorem exists_get?_of_unspent_eq (h : s.unspent = t.unspent) (hget : s.get? i = some handle) :
    ∃ other, t.get? i = some other ∧ other.unspent = handle.unspent := by
  have hsame := (unspent_eq_iff.mp h).2.2 i
  rw [hget] at hsame
  exact Option.map_eq_some_iff.mp hsame.symm

/-- A change of one handle that does not depend on spent callbacks. -/
theorem unspent_modify_eq
    {f : Handle → Handle} (hf : ∀ h, (f h.unspent).unspent = (f h).unspent)
    (h : s.unspent = t.unspent) (i : Nat) : (s.modify i f).unspent = (t.modify i f).unspent := by
  obtain ⟨hhistory, hjournal, hget⟩ := unspent_eq_iff.mp h
  refine unspent_eq_iff.mpr ⟨hhistory, hjournal, fun j => ?_⟩
  have hmodified (u : Handles) : ((u.modify i f).get? j).map Handle.unspent =
      ((u.get? j).map Handle.unspent).map fun h => if i = j then (f h).unspent else h := by
    rw [get?_modify, Option.map_map, Option.map_map]
    refine congrArg (fun g => (u.get? j).map g) (funext fun h => ?_)
    by_cases hij : i = j
    · simp [hij, hf]
    · simp [hij]
  rw [hmodified, hmodified, hget]

theorem unspent_register (callback : List CloseAction) (h : Handle) :
    (h.unspent.register callback).unspent = (h.register callback).unspent := by
  cases hclosed : h.closed <;>
    simp [Handle.unspent, Handle.register, Handle.clearCallbacks, hclosed]

theorem unspent_markClosed (h : Handle) : h.unspent.markClosed.unspent = h.markClosed.unspent := by
  cases hclosed : h.closed <;>
    simp [Handle.unspent, Handle.markClosed, Handle.clearCallbacks, hclosed]

theorem unspent_clearCallbacks (h : Handle) :
    h.unspent.clearCallbacks.unspent = h.clearCallbacks.unspent := by
  cases hclosed : h.closed <;> simp [Handle.unspent, Handle.clearCallbacks, hclosed]

theorem unspent_note (h : s.unspent = t.unspent) (n : Note) :
    (s.note n).unspent = (t.note n).unspent :=
  congrArg (·.note n) h

theorem unspent_recordEvent (h : s.unspent = t.unspent) (e : HandleEvent) :
    (s.recordEvent e).unspent = (t.recordEvent e).unspent :=
  congrArg (·.recordEvent e) h

/-- A callback registered on a closed handle is spent at once. -/
theorem unspent_onClose_of_isClosed (h : s.isClosed j = true) (callback : List CloseAction) :
    (s.onClose j callback).unspent = s.unspent := by
  refine unspent_eq_iff.mpr ⟨rfl, rfl, fun i => ?_⟩
  rw [onClose, get?_modify]
  by_cases hij : j = i
  · subst hij
    cases hget : s.get? j with
    | none => rfl
    | some handle =>
      have hclosed : handle.closed = true := by simpa [isClosed, hget] using h
      simp [Handle.unspent, Handle.register, Handle.clearCallbacks, hclosed]
  · rw [if_neg hij, Option.map_id]
    rfl

section Run

variable {close : Nat → Handles → Closing}
variable (hclose : ∀ (i : Nat) (s t : Handles), s.unspent = t.unspent →
  SameClosing (close i s) (close i t))
include hclose

theorem sameClosing_runActions (actions : List CloseAction) (h : s.unspent = t.unspent) :
    SameClosing (runActions close actions s) (runActions close actions t) := by
  induction actions generalizing s t with
  | nil => exact .of_unspent_eq h none
  | cons action rest ih =>
    cases action with
    | say items => exact ih (unspent_note h (.said items))
    | fail failure => exact .of_unspent_eq h (some failure)
    | close i =>
      obtain ⟨hstate, hfailure⟩ := hclose i s t h
      rw [runActions, runActions]
      generalize close i s = c at hstate hfailure ⊢
      generalize close i t = d at hstate hfailure ⊢
      obtain ⟨s', failure⟩ := c
      obtain ⟨t', failure'⟩ := d
      obtain rfl : failure = failure' := hfailure
      cases failure with
      | none => exact ih hstate
      | some failure => exact .of_unspent_eq hstate (some failure)
    | ask i =>
      rw [runActions, runActions]
      cases hget : s.get? i with
      | none =>
        rw [get?_eq_none_of_unspent_eq h hget]
        exact ih h
      | some handle =>
        obtain ⟨other, hother, hsame⟩ := exists_get?_of_unspent_eq h hget
        rw [hother]
        dsimp only
        -- a note shows the name of the handle and whether it is closed
        rw [← name_unspent handle, ← name_unspent other, ← closed_unspent handle,
          ← closed_unspent other, hsame]
        exact ih (unspent_note h _)
    | onClose i callback =>
      exact ih (unspent_modify_eq (unspent_register callback) h i)

theorem sameClosing_runCallbacks
    (i : Nat) (callbacks : List (List CloseAction × Nat)) (first : Option Failure)
    (h : s.unspent = t.unspent) :
    SameClosing (runCallbacks close i callbacks first s)
      (runCallbacks close i callbacks first t) := by
  induction callbacks generalizing first s t with
  | nil => exact .of_unspent_eq h first
  | cons e rest ih =>
    obtain ⟨callback, position⟩ := e
    obtain ⟨hstate, hfailure⟩ :=
      sameClosing_runActions hclose callback (unspent_recordEvent h (.started i position))
    rw [runCallbacks, runCallbacks]
    generalize runActions close callback (s.recordEvent (.started i position)) = c
      at hstate hfailure ⊢
    generalize runActions close callback (t.recordEvent (.started i position)) = d
      at hstate hfailure ⊢
    obtain ⟨s', failure⟩ := c
    obtain ⟨t', failure'⟩ := d
    obtain rfl : failure = failure' := hfailure
    cases failure with
    | none => exact ih first hstate
    | some failure =>
      dsimp only
      split
      · exact ih _ hstate
      · exact .of_unspent_eq hstate (some failure)

end Run

theorem sameClosing_finish (i : Nat) (h : SameClosing c d) :
    SameClosing (finish i c) (finish i d) := by
  obtain ⟨s, failure⟩ := c
  obtain ⟨t, failure'⟩ := d
  obtain rfl : failure = failure' := h.failure_eq
  have hclear := unspent_modify_eq unspent_clearCallbacks h.unspent_eq i
  cases failure with
  | none => exact .of_unspent_eq hclear none
  | some failure =>
    rw [finish, finish]
    split
    · exact .of_unspent_eq hclear (some failure)
    · exact h

theorem sameClosing_closeWithin (n i : Nat) (h : s.unspent = t.unspent) :
    SameClosing (closeWithin n i s) (closeWithin n i t) := by
  induction n generalizing i s t with
  | zero => exact .of_unspent_eq h none
  | succ n ih =>
    rw [closeWithin, closeWithin]
    cases hget : s.get? i with
    | none =>
      rw [get?_eq_none_of_unspent_eq h hget]
      exact .of_unspent_eq h none
    | some handle =>
      obtain ⟨other, hother, hsame⟩ := exists_get?_of_unspent_eq h hget
      have hclosed : other.closed = handle.closed := by
        rw [← closed_unspent, hsame, closed_unspent]
      rw [hother]
      dsimp only
      rw [hclosed]
      split
      · exact .of_unspent_eq h none
      · rename_i hopen
        -- an open handle is the same in both, with all its callbacks
        have hopen' := Bool.eq_false_iff.mpr hopen
        rw [unspent_of_open hopen', unspent_of_open (hclosed.trans hopen')] at hsame
        subst hsame
        refine sameClosing_finish i (sameClosing_runCallbacks (fun i s t h => ih i h) i _ none ?_)
        exact unspent_recordEvent (unspent_modify_eq unspent_markClosed h i) (.closed i)

/-- Callbacks of closed handles have no part in a closing. -/
theorem sameClosing_close (i : Nat) (h : s.unspent = t.unspent) :
    SameClosing (s.close i) (t.close i) := by
  have hcount : s.openCount = t.openCount := by
    rw [← openCount_unspent, h, openCount_unspent]
  unfold close
  rw [hcount]
  exact sameClosing_closeWithin _ i h

theorem sameClosing_runCall (call : HandleCall) (h : s.unspent = t.unspent) :
    SameClosing (runCall call s) (runCall call t) := by
  cases call with
  | onClose i callback =>
    exact .of_unspent_eq (unspent_modify_eq (unspent_register callback) h i) none
  | close i => exact sameClosing_close i h

theorem runCalls_eq_of_unspent_eq (calls : List HandleCall) (h : s.unspent = t.unspent) :
    (runCalls calls s).1.unspent = (runCalls calls t).1.unspent ∧
      (runCalls calls s).2 = (runCalls calls t).2 := by
  induction calls generalizing s t with
  | nil => exact ⟨h, rfl⟩
  | cons call rest ih =>
    obtain ⟨hstate, hfailure⟩ := sameClosing_runCall call h
    obtain ⟨hrest, hfailures⟩ := ih hstate
    exact ⟨hrest, congrArg₂ List.cons hfailure hfailures⟩

/-! ## Courses -/

/-- What remains to be run at some moment. -/
inductive Course
  | calls (calls : List HandleCall)
  /-- The rest of a callback. -/
  | actions (actions : List CloseAction)
  /-- Further callbacks of a handle, with the first failure of those before. -/
  | callbacks (i : Nat) (callbacks : List (List CloseAction × Nat)) (first : Option Failure)

/-- Where a course leads, and the failures that it reports. -/
def Course.run : Course → Handles → Handles × List (Option Failure)
  | .calls rest, s => runCalls rest s
  | .actions rest, s =>
    let c := runActions Handles.close rest s
    (c.1, [c.2])
  | .callbacks i rest first, s =>
    let c := runCallbacks Handles.close i rest first s
    (c.1, [c.2])

theorem Course.advances_run (course : Course) (s : Handles) : s.Advances (course.run s).1 := by
  cases course with
  | calls calls => exact advances_runCalls calls s
  | actions actions => exact (closes_runActions closes_close actions s).advances
  | callbacks i callbacks first =>
    exact (closes_runCallbacks closes_close i callbacks first s).advances

theorem Course.run_eq_of_unspent_eq (course : Course) (h : s.unspent = t.unspent) :
    (course.run s).1.unspent = (course.run t).1.unspent ∧ (course.run s).2 = (course.run t).2 := by
  have hclose (i : Nat) (s t : Handles) (h : s.unspent = t.unspent) :
      SameClosing (Handles.close i s) (Handles.close i t) := sameClosing_close i h
  cases course with
  | calls calls => exact runCalls_eq_of_unspent_eq calls h
  | actions actions =>
    obtain ⟨hstate, hfailure⟩ := sameClosing_runActions hclose actions h
    exact ⟨hstate, congrArg ([·]) hfailure⟩
  | callbacks i callbacks first =>
    obtain ⟨hstate, hfailure⟩ := sameClosing_runCallbacks hclose i callbacks first h
    exact ⟨hstate, congrArg ([·]) hfailure⟩

/--
**Closing is re-entrant and happens once.**  Every closing has a finite derivation by the rules.
Whatever runs next, a closed handle stays closed.  In a run of calls no handle is closed twice and
no callback started twice, and the callbacks of an open handle only get more at the end.  A closing
of an open handle starts its callbacks in turn, the one registered last first; unless it is
interrupted it starts all of them, and it reports the first failure of a turn.  A callback that is
registered on a closed handle is spent, and what is spent shows in nothing that runs later, neither
in the history nor in the journal nor in a failure.
-/
theorem closing_once (s : Handles) :
    (∀ i c, RunsClose i s c ↔ s.close i = c) ∧
    (∀ (course : Course) (j : Nat), s.isClosed j = true → (course.run s).1.isClosed j = true) ∧
    (∀ (calls : List HandleCall) (e : HandleEvent),
      (runCalls calls s).1.history.count e ≤ s.history.count e + 1 ∧
        (s.isClosed e.handle = true →
          (runCalls calls s).1.history.count e = s.history.count e)) ∧
    (∀ (calls : List HandleCall) (j : Nat), (runCalls calls s).1.isClosed j = false →
      s.callbacksOf j <+: (runCalls calls s).1.callbacksOf j) ∧
    (∀ i handle, s.get? i = some handle → handle.closed = false →
      ∃ events,
        (s.close i).1.eventsOf i = s.eventsOf i ++ events ∧
        events <+: closingEvents i handle.callbacks.length ∧
        (Uninterrupted (s.close i) →
          events = closingEvents i handle.callbacks.length ∧
          s.close i =
            ((stateAfter (s.markClosed i)
                (turns i handle.callbacks.zipIdx.reverse (s.markClosed i))).modify i
              Handle.clearCallbacks,
              (turns i handle.callbacks.zipIdx.reverse (s.markClosed i)).findSome? Prod.snd))) ∧
    (∀ (j : Nat) (callback : List CloseAction), s.isClosed j = true →
      (s.onClose j callback).unspent = s.unspent) ∧
    ∀ (course : Course) (t : Handles), t.unspent = s.unspent →
      (course.run t).1.unspent = (course.run s).1.unspent ∧
        (course.run t).2 = (course.run s).2 := by
  refine ⟨fun i c => runsClose_iff, fun course j => (course.advances_run s).isClosed_of j,
    fun calls e => count_history_runCalls calls s e,
    fun calls j => callbacksOf_prefix_runCalls calls s, fun i handle hget hopen => ?_,
    fun j callback hclosed => unspent_onClose_of_isClosed hclosed callback,
    fun course t h => course.run_eq_of_unspent_eq h⟩
  obtain ⟨events, hevents, hprefix, hwhole⟩ := exists_eventsOf_finish_runCallbacks ran_close hget
  rw [← close_of_open hget hopen] at hevents hwhole
  exact ⟨events, hevents, hprefix, fun h => ⟨hwhole h, close_eq_turns hget hopen h⟩⟩

/-- Two handles that close each other and themselves, register callbacks late, and fail. -/
def entangledHandles : Handles :=
  Handles.ofList
    [Handle.make ⟨[.char 'a']⟩ none
      [[.say [.null], .fail (.raised .value ⟨[.char 'x']⟩)],
        [.onClose 0 [.say [.bool true]], .close 1]],
      Handle.make ⟨[.char 'b']⟩ none
        [[.close 0, .close 1, .fail (.raised .runtime ⟨[.char 'y']⟩)]]]

/-- The failure of the inner closing comes first, and the late callback never starts. -/
theorem closing_once_entangled :
    let closed := (entangledHandles.close 0).1
    Uninterrupted (entangledHandles.close 0) ∧
    RunsClose 0 entangledHandles (entangledHandles.close 0) ∧
    (entangledHandles.close 0).2 = some (.raised .runtime ⟨[.char 'y']⟩) ∧
    closed.history = [.closed 0, .started 0 1, .closed 1, .started 1 0, .started 0 0] ∧
    closed.eventsOf 0 = closingEvents 0 2 ∧
    closed.isClosed 1 = true ∧
    (runCalls [.onClose 0 [.say [.null]], .close 0, .close 1] closed).1.history.count
      (.started 0 0) = 1 ∧
    (runCalls [.close 0, .close 1] (closed.onClose 0 [.say [.null]])).2 =
      (runCalls [.close 0, .close 1] closed).2 := by
  intro closed
  have huninterrupted : Uninterrupted (entangledHandles.close 0) := by
    rintro failure ⟨⟩
    rfl
  obtain ⟨hrules, -, -, -, hclose, -, -⟩ := closing_once entangledHandles
  obtain ⟨-, -, hcount, -, -, hspent, hsame⟩ := closing_once closed
  obtain ⟨events, hevents, -, hwhole⟩ := hclose 0 _ rfl rfl
  refine ⟨huninterrupted, (hrules 0 _).mpr rfl, rfl, rfl, ?_, rfl, ?_, ?_⟩
  · rw [(hwhole huninterrupted).1] at hevents
    exact hevents
  · exact (hcount _ (.started 0 0)).2 rfl
  · exact (hsame (.calls [.close 0, .close 1]) _ (hspent 0 _ rfl)).2

end Handles

end LiveConfig
