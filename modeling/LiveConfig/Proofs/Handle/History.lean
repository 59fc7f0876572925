import LiveConfig.Proofs.Handle.Release

/-!
# What closings leave in the history

The history has an event for every closing and for every start of a callback.  Here it is read
handle by handle (`Handles.eventsOf`).  Whatever callbacks do, a closing adds to the events of a
handle in one of three ways (`Handles.RanAt`): nothing, if the handle was closed before; nothing, if
it is still open, and then no callback of it is lost; or else the mark and, newest first, the starts
of all its callbacks, each one once.  Only an interruption cuts the last list short.

Callbacks close other handles and register further ones, so all this is carried through the whole
run at once, for all handles but the one whose callbacks are running (`Handles.Ran`).

**Results.**
* `Handles.ran_close`, `Attempt.ran_release`: what a closing and a release add to the history, and
  which notes they make.
* `Attempt.eventsOf_release`: a release of tame handles runs the callbacks of all that a bootstrap
  tracked.
-/

namespace LiveConfig

namespace Note

/-- Whether a close callback can make a note. -/
def isOfCallback : Note → Bool
  | said _ => true
  | handle _ _ => true
  | _ => false

end Note

namespace HandleEvent

/-- The handle that an event is about. -/
def handle : HandleEvent → Nat
  | closed i => i
  | started i _ => i

end HandleEvent

namespace Handles

/-- What happened to one handle, in order. -/
def eventsOf (s : Handles) (j : Nat) : List HandleEvent :=
  s.history.filter fun e => e.handle == j

/-- The callbacks of a handle that were registered and not forgotten. -/
def callbacksOf (s : Handles) (j : Nat) : List (List CloseAction) :=
  ((s.get? j).map Handle.callbacks).getD []

/-- The closing of a handle with `n` callbacks, of which the one registered last starts first. -/
def closingEvents (j n : Nat) : List HandleEvent :=
  .closed j :: (List.range n).reverse.map (.started j)

/-- A closing came to its end, with an ordinary failure or none. -/
def Uninterrupted (c : Closing) : Prop :=
  ∀ failure, c.2 = some failure → failure.isOrdinary = true

variable {s t : Handles} {c d : Closing} {i j : Nat} {f : Handle → Handle}

/-! ## One handle -/

theorem eventsOf_recordEvent (s : Handles) (e : HandleEvent) (j : Nat) :
    (s.recordEvent e).eventsOf j = s.eventsOf j ++ if e.handle = j then [e] else [] := by
  unfold eventsOf recordEvent
  rw [List.filter_append]
  by_cases h : e.handle = j <;> simp [h]

theorem eventsOf_recordEvent_of_ne
    {e : HandleEvent} (h : e.handle ≠ j) : (s.recordEvent e).eventsOf j = s.eventsOf j := by
  rw [eventsOf_recordEvent, if_neg h, List.append_nil]

/-- What a closing did to one handle. -/
structure RanAt (j : Nat) (s : Handles) (c : Closing) : Prop where
  of_closed : s.isClosed j = true → c.1.eventsOf j = s.eventsOf j
  of_open : c.1.isClosed j = false →
    c.1.eventsOf j = s.eventsOf j ∧ s.callbacksOf j <+: c.1.callbacksOf j
  closing : s.isClosed j = false → c.1.isClosed j = true →
    ∃ n events,
      (s.callbacksOf j).length ≤ n ∧
      c.1.eventsOf j = s.eventsOf j ++ events ∧
      events <+: closingEvents j n ∧
      (Uninterrupted c → events = closingEvents j n)

namespace RanAt

/-- Nothing happened to the handle but that callbacks were registered. -/
theorem of_same
    (hevents : c.1.eventsOf j = s.eventsOf j) (hclosed : c.1.isClosed j = s.isClosed j)
    (hcallbacks : s.callbacksOf j <+: c.1.callbacksOf j) : RanAt j s c where
  of_closed _ := hevents
  of_open _ := ⟨hevents, hcallbacks⟩
  closing hopen hclosed' := by
    rw [hclosed, hopen] at hclosed'
    cases hclosed'

/-- The handle is the same and has no new event. -/
theorem of_get?_eq
    (hevents : c.1.eventsOf j = s.eventsOf j) (hget : c.1.get? j = s.get? j) : RanAt j s c := by
  have hcallbacks : c.1.callbacksOf j = s.callbacksOf j := by rw [callbacksOf, callbacksOf, hget]
  exact of_same hevents (congrArg (Option.any Handle.closed) hget)
    (hcallbacks ▸ List.prefix_refl _)

/-- What follows a closing that came to its end. -/
theorem trans
    (h : RanAt j s c) (hc : Uninterrupted c) (hadv : s.Advances c.1) (hadv' : c.1.Advances d.1)
    (h' : RanAt j c.1 d) : RanAt j s d where
  of_closed hclosed := (h'.of_closed (hadv.isClosed_of j hclosed)).trans (h.of_closed hclosed)
  of_open hopen := by
    have hmid : c.1.isClosed j = false := by
      refine Bool.eq_false_iff.mpr fun hclosed => ?_
      rw [hadv'.isClosed_of j hclosed] at hopen
      cases hopen
    obtain ⟨hevents, hcallbacks⟩ := h.of_open hmid
    obtain ⟨hevents', hcallbacks'⟩ := h'.of_open hopen
    exact ⟨hevents'.trans hevents, hcallbacks.trans hcallbacks'⟩
  closing hopen hclosed := by
    cases hmid : c.1.isClosed j with
    | true =>
      obtain ⟨n, events, hn, hevents, -, hwhole⟩ := h.closing hopen hmid
      obtain rfl := hwhole hc
      exact ⟨n, _, hn, (h'.of_closed hmid).trans hevents, List.prefix_refl _, fun _ => rfl⟩
    | false =>
      obtain ⟨hevents, hcallbacks⟩ := h.of_open hmid
      obtain ⟨n, events, hn, hevents', hpre, hwhole⟩ := h'.closing hmid hclosed
      exact ⟨n, events, Nat.le_trans hcallbacks.length_le hn, by rw [hevents', hevents], hpre,
        hwhole⟩

end RanAt

/-! ## All handles -/

/-- What a closing did to the handles of a kind, and that only callbacks noted something. -/
structure Ran (p : Nat → Prop) (s : Handles) (c : Closing) : Prop where
  advances : s.Advances c.1
  exists_notes : ∃ notes, c.1.journal.notes = s.journal.notes ++ notes ∧
    ∀ n ∈ notes, n.isOfCallback = true
  ranAt : ∀ j, p j → RanAt j s c

/-- Every handle. -/
abbrev anyHandle (_ : Nat) : Prop :=
  True

namespace Ran

variable {p q : Nat → Prop}

theorem mono (h : Ran q s c) (hpq : ∀ j, p j → q j) : Ran p s c :=
  ⟨h.advances, h.exists_notes, fun j hj => h.ranAt j (hpq j hj)⟩

theorem refl (s : Handles) (failure : Option Failure) : Ran p s (s, failure) :=
  ⟨Advances.refl s, ⟨[], (List.append_nil _).symm, List.forall_mem_nil _⟩,
    fun _ _ => RanAt.of_get?_eq rfl rfl⟩

theorem trans (h : Ran p s c) (hc : Uninterrupted c) (h' : Ran p c.1 d) : Ran p s d where
  advances := h.advances.trans h'.advances
  exists_notes := by
    obtain ⟨notes, hnotes, hof⟩ := h.exists_notes
    obtain ⟨notes', hnotes', hof'⟩ := h'.exists_notes
    refine ⟨notes ++ notes', by rw [hnotes', hnotes, List.append_assoc], fun n hn => ?_⟩
    rcases List.mem_append.mp hn with hmem | hmem
    · exact hof n hmem
    · exact hof' n hmem
  ranAt j hj := (h.ranAt j hj).trans hc h.advances h'.advances (h'.ranAt j hj)

/-- Another change comes first, which fails in no way. -/
theorem after (h : Ran p t c) (hst : Ran p s (t, none)) : Ran p s c :=
  hst.trans (fun _ hfailure => nomatch hfailure) h

/-- A callback made a note. -/
theorem note {n : Note} (h : n.isOfCallback = true) : Ran p s (s.note n, none) where
  advances := Advances.of_handles_eq rfl
  exists_notes := ⟨[n], rfl, List.forall_mem_singleton.mpr h⟩
  ranAt _ _ := RanAt.of_get?_eq rfl rfl

end Ran

/-- Registering a callback loses none. -/
theorem ran_onClose (i : Nat) (callback : List CloseAction) (s : Handles) :
    Ran anyHandle s (s.onClose i callback, none) where
  advances := Advances.modify i (fun _ => rfl) fun _ h => h
  exists_notes := ⟨[], (List.append_nil _).symm, List.forall_mem_nil _⟩
  ranAt j _ := by
    refine RanAt.of_same rfl (isClosed_modify (f := Handle.register callback) (fun _ => rfl) i j) ?_
    unfold callbacksOf onClose
    rw [get?_modify]
    cases s.get? j with
    | none => exact List.prefix_refl _
    | some handle =>
      rw [Option.map_some]
      split
      · exact List.prefix_append _ _
      · exact List.prefix_refl _

theorem ran_recordEvent (e : HandleEvent) (s : Handles) :
    Ran (· ≠ e.handle) s (s.recordEvent e, none) where
  advances := Advances.of_handles_eq rfl
  exists_notes := ⟨[], (List.append_nil _).symm, List.forall_mem_nil _⟩
  ranAt _ hj := RanAt.of_get?_eq (eventsOf_recordEvent_of_ne (Ne.symm hj)) rfl

/-- Marking a handle and forgetting its callbacks does nothing to the others. -/
theorem ran_modify
    (hparent : ∀ handle, (f handle).parent = handle.parent)
    (hclosed : ∀ handle, handle.closed = true → (f handle).closed = true) (i : Nat) (s : Handles)
    (failure : Option Failure) :
    Ran (· ≠ i) s (s.modify i f, failure) where
  advances := Advances.modify i hparent hclosed
  exists_notes := ⟨[], (List.append_nil _).symm, List.forall_mem_nil _⟩
  ranAt _ hj := RanAt.of_get?_eq rfl (get?_modify_of_ne (Ne.symm hj))

/-! ## Running callbacks -/

section Run

variable {close : Nat → Handles → Closing}
variable (hclose : ∀ (i : Nat) (s : Handles), Ran anyHandle s (close i s))
include hclose

theorem ran_runActions (actions : List CloseAction) (s : Handles) :
    Ran anyHandle s (runActions close actions s) := by
  induction actions generalizing s with
  | nil => exact Ran.refl s none
  | cons action rest ih =>
    cases action with
    | say items => exact (ih _).after (Ran.note rfl)
    | fail failure => exact Ran.refl s (some failure)
    | close i =>
      have hi := hclose i s
      rw [runActions]
      split
      · rename_i t ht
        rw [ht] at hi
        exact (ih t).after hi
      · rename_i t failure ht
        rwa [ht] at hi
    | ask i =>
      rw [runActions]
      split
      · exact ih s
      · exact (ih _).after (Ran.note rfl)
    | onClose i callback => exact (ih _).after (ran_onClose i callback s)

/-- Callbacks of a handle that is closed start in the order given, up to an interruption. -/
theorem ran_runCallbacks
    (callbacks : List (List CloseAction × Nat)) (first : Option Failure) (s : Handles)
    (hclosed : s.isClosed i = true) :
    Ran (· ≠ i) s (runCallbacks close i callbacks first s) ∧
    ∃ events,
      (runCallbacks close i callbacks first s).1.eventsOf i = s.eventsOf i ++ events ∧
      events <+: callbacks.map (fun e => .started i e.2) ∧
      (Uninterrupted (runCallbacks close i callbacks first s) →
        events = callbacks.map fun e => .started i e.2) := by
  induction callbacks generalizing first s with
  | nil =>
    exact ⟨Ran.refl s first, [], (List.append_nil _).symm, List.prefix_refl _, fun _ => rfl⟩
  | cons e rest ih =>
    obtain ⟨callback, position⟩ := e
    have hstart := ran_recordEvent (.started i position) s
    have hrun := ran_runActions hclose callback (s.recordEvent (.started i position))
    -- the handle is closed already, so nothing that its callback closes adds to its events
    have hevents : (runActions close callback (s.recordEvent (.started i position))).1.eventsOf i =
        s.eventsOf i ++ [.started i position] := by
      have hfirst : (s.recordEvent (.started i position)).eventsOf i =
          s.eventsOf i ++ [.started i position] :=
        (eventsOf_recordEvent _ _ _).trans (congrArg _ (if_pos rfl))
      exact ((hrun.ranAt i trivial).of_closed (hstart.advances.isClosed_of i hclosed)).trans hfirst
    have hran := (hrun.mono fun _ _ => trivial).after hstart
    have hmid := hran.advances.isClosed_of i hclosed
    rw [runCallbacks]
    generalize runActions close callback (s.recordEvent (.started i position)) = c
      at hran hevents hmid
    have hnext (first : Option Failure) (hc : Uninterrupted c) :
        Ran (· ≠ i) s (runCallbacks close i rest first c.1) ∧
        ∃ events,
          (runCallbacks close i rest first c.1).1.eventsOf i = s.eventsOf i ++ events ∧
          events <+: .started i position :: rest.map (fun e => .started i e.2) ∧
          (Uninterrupted (runCallbacks close i rest first c.1) →
            events = .started i position :: rest.map fun e => .started i e.2) := by
      obtain ⟨hrest, events, hmore, hpre, hwhole⟩ := ih first c.1 hmid
      refine ⟨hran.trans hc hrest, .started i position :: events, ?_, ?_, fun h => ?_⟩
      · rw [hmore, hevents, List.append_assoc]
        rfl
      · exact (List.prefix_cons_inj _).mpr hpre
      · rw [hwhole h]
    obtain ⟨t, failure⟩ := c
    cases failure with
    | none => exact hnext first fun _ h => by cases h
    | some failure =>
      dsimp only
      split
      · rename_i hord
        exact hnext _ fun _ h => Option.some.inj h ▸ hord
      · rename_i hord
        refine ⟨hran, [.started i position], hevents, ?_, fun h => absurd (h failure rfl) hord⟩
        exact (List.prefix_cons_inj _).mpr (List.nil_prefix)

end Run

/-! ## Closing -/

theorem ran_finish (h : Ran (· ≠ i) s c) : Ran (· ≠ i) s (finish i c) := by
  obtain ⟨t, failure⟩ := c
  have hclear (failure : Option Failure) :
      Ran (· ≠ i) t (t.modify i Handle.clearCallbacks, failure) :=
    ran_modify (f := Handle.clearCallbacks) (fun _ => rfl) (fun _ h => h) i t failure
  cases failure with
  | none => exact (hclear none).after h
  | some failure =>
    rw [finish]
    split
    · rename_i hord
      exact h.trans (fun _ hfailure => Option.some.inj hfailure ▸ hord) (hclear (some failure))
    · exact h

theorem eventsOf_finish (i : Nat) (c : Closing) (j : Nat) :
    (finish i c).1.eventsOf j = c.1.eventsOf j := by
  obtain ⟨t, failure⟩ := c
  cases failure with
  | none => rfl
  | some failure =>
    rw [finish]
    split <;> rfl

theorem uninterrupted_finish_iff {i : Nat} :
    Uninterrupted (finish i c) ↔ Uninterrupted c := by
  obtain ⟨t, failure⟩ := c
  cases failure with
  | none => exact Iff.rfl
  | some failure =>
    rw [finish]
    split <;> exact Iff.rfl

/-- The positions of callbacks, newest first. -/
theorem map_zipIdx_reverse (i : Nat) (callbacks : List (List CloseAction)) :
    callbacks.zipIdx.reverse.map (fun e => HandleEvent.started i e.2) =
      (List.range callbacks.length).reverse.map (.started i) := by
  rw [List.map_reverse, List.map_reverse, List.range_eq_range', ← List.zipIdx_map_snd 0 callbacks,
    List.map_map]
  rfl

theorem ran_markClosed (i : Nat) (s : Handles) : Ran (· ≠ i) s (s.markClosed i, none) :=
  (ran_recordEvent (.closed i) _).after
    (ran_modify (f := Handle.markClosed) (fun _ => rfl) (fun _ _ => rfl) i s none)

/-- A handle that is open starts its callbacks, newest first, and all unless it is interrupted. -/
theorem exists_eventsOf_finish_runCallbacks
    {close : Nat → Handles → Closing}
    (hclose : ∀ (i : Nat) (s : Handles), Ran anyHandle s (close i s)) {handle : Handle}
    (hget : s.get? i = some handle) :
    let c := finish i (runCallbacks close i handle.callbacks.zipIdx.reverse none (s.markClosed i))
    ∃ events,
      c.1.eventsOf i = s.eventsOf i ++ events ∧
      events <+: closingEvents i handle.callbacks.length ∧
      (Uninterrupted c → events = closingEvents i handle.callbacks.length) := by
  have hmarked : (s.markClosed i).isClosed i = true :=
    isClosed_markClosed (List.getElem?_eq_some_iff.mp hget).1
  have hfirst : (s.markClosed i).eventsOf i = s.eventsOf i ++ [.closed i] :=
    (eventsOf_recordEvent _ _ _).trans (congrArg _ (if_pos rfl))
  obtain ⟨-, events, hevents, hpre, hwhole⟩ :=
    ran_runCallbacks hclose handle.callbacks.zipIdx.reverse none _ hmarked
  rw [map_zipIdx_reverse] at hpre hwhole
  refine ⟨.closed i :: events, ?_, (List.prefix_cons_inj _).mpr hpre, fun h => ?_⟩
  · rw [eventsOf_finish, hevents, hfirst, List.append_assoc]
    rfl
  · rw [hwhole (uninterrupted_finish_iff.mp h)]
    rfl

/-- What closing an open handle did to this handle and to all others. -/
theorem ran_finish_runCallbacks
    {close : Nat → Handles → Closing}
    (hclose : ∀ (i : Nat) (s : Handles), Ran anyHandle s (close i s)) {handle : Handle}
    (hget : s.get? i = some handle) (hopen : handle.closed = false) :
    Ran anyHandle s
      (finish i (runCallbacks close i handle.callbacks.zipIdx.reverse none (s.markClosed i))) := by
  have hmarked : (s.markClosed i).isClosed i = true :=
    isClosed_markClosed (List.getElem?_eq_some_iff.mp hget).1
  have hrun := (ran_runCallbacks hclose handle.callbacks.zipIdx.reverse none _ hmarked).1
  obtain ⟨events, hevents, hpre, hwhole⟩ := exists_eventsOf_finish_runCallbacks hclose hget
  generalize runCallbacks close i handle.callbacks.zipIdx.reverse none (s.markClosed i) = c
    at hrun hevents hwhole ⊢
  have hothers := (ran_finish hrun).after (ran_markClosed i s)
  have hopened : s.isClosed i = false := by
    rw [isClosed, hget]
    exact hopen
  have hclosed : (finish i c).1.isClosed i = true :=
    (ran_finish hrun).advances.isClosed_of i hmarked
  have hself : RanAt i s (finish i c) := by
    refine ⟨fun h => ?_, fun h => ?_, fun _ _ => ?_⟩
    · rw [hopened] at h
      cases h
    · rw [hclosed] at h
      cases h
    · refine ⟨handle.callbacks.length, events, ?_, hevents, hpre, hwhole⟩
      rw [callbacksOf, hget]
      exact Nat.le_refl _
  refine ⟨hothers.advances, hothers.exists_notes, fun j _ => ?_⟩
  by_cases hj : j = i
  · exact hj ▸ hself
  · exact hothers.ranAt j hj

theorem ran_closeWithin (n i : Nat) (s : Handles) : Ran anyHandle s (closeWithin n i s) := by
  induction n generalizing i s with
  | zero => exact Ran.refl s none
  | succ n ih =>
    rw [closeWithin]
    split
    · exact Ran.refl s none
    · rename_i handle hget
      split
      · exact Ran.refl s none
      · rename_i hopen
        exact ran_finish_runCallbacks ih hget (Bool.eq_false_iff.mpr hopen)

/-- What a closing adds to the history, whatever its callbacks do. -/
theorem ran_close (i : Nat) (s : Handles) : Ran anyHandle s (s.close i) :=
  ran_closeWithin _ i s

/-! ## Releasing -/

theorem ran_recordReleaseFailure (name : Text) (failure : Failure) (s : Handles) :
    Ran anyHandle s (s.recordReleaseFailure name failure, none) where
  advances := Advances.of_handles_eq rfl
  exists_notes := ⟨[], (List.append_nil _).symm, List.forall_mem_nil _⟩
  ranAt _ _ := RanAt.of_get?_eq rfl rfl

theorem ran_releaseFrom
    (n : Nat) (seen : List Nat) (i : Option Nat) (s : Handles) (failed : List Nat) :
    Ran anyHandle s
      ((releaseFrom n seen i s failed).handles, (releaseFrom n seen i s failed).interrupted) := by
  induction n generalizing seen i s failed with
  | zero => exact Ran.refl s none
  | succ n ih =>
    cases i with
    | none => exact Ran.refl s none
    | some k =>
      rw [releaseFrom]
      split
      · exact Ran.refl s none
      · split
        · exact Ran.refl s none
        · rename_i handle hget
          have hclose := ran_close k s
          split
          · rename_i t ht
            rw [ht] at hclose
            exact (ih _ _ t _).after hclose
          · rename_i t failure ht
            rw [ht] at hclose
            split
            · rename_i hord
              refine hclose.trans (fun _ h => Option.some.inj h ▸ hord) ?_
              exact (ih _ _ _ _).after (ran_recordReleaseFailure handle.name failure t)
            · exact hclose

theorem ran_releaseChain (i : Option Nat) (s : Handles) :
    Ran anyHandle s ((s.releaseChain i).handles, (s.releaseChain i).interrupted) :=
  ran_releaseFrom _ _ _ _ _

theorem ran_releaseAll (starts : List (Option Nat)) (s : Handles) :
    Ran anyHandle s (releaseAll starts s) := by
  induction starts generalizing s with
  | nil => exact Ran.refl s none
  | cons i rest ih =>
    have hchain := ran_releaseChain i s
    rw [releaseAll]
    split
    · rename_i hnone
      rw [hnone] at hchain
      exact (ih _).after hchain
    · rename_i failure hsome
      rwa [hsome] at hchain

end Handles

namespace Attempt

/-- What a release adds to the history, whatever the callbacks do. -/
theorem ran_release (attempt : Attempt) :
    Handles.Ran Handles.anyHandle attempt.tracking.handles attempt.release :=
  Handles.ran_releaseAll _ _

variable {attempt : Attempt} {j : Nat}

/-- A release of tame handles closes all that can be reached from what is tracked. -/
theorem isClosed_release
    (h : attempt.tracking.handles.Tame) {k : Nat} (hk : k ∈ attempt.tracking.tracked)
    (hj : attempt.tracking.handles.OnChain (some k) j) : attempt.release.1.isClosed j = true := by
  refine (released_release h).isClosed (some k) ?_ j hj
  exact List.mem_append_right _ (List.mem_map_of_mem (List.mem_reverse.mpr hk))

/-- A release of tame handles runs all callbacks of a handle that it finds open, each one once. -/
theorem eventsOf_release
    (h : attempt.tracking.handles.Tame) {k : Nat} (hk : k ∈ attempt.tracking.tracked)
    (hj : attempt.tracking.handles.OnChain (some k) j)
    (hopen : attempt.tracking.handles.isClosed j = false) :
    ∃ n, (attempt.tracking.handles.callbacksOf j).length ≤ n ∧
      attempt.release.1.eventsOf j =
        attempt.tracking.handles.eventsOf j ++ Handles.closingEvents j n := by
  obtain ⟨n, events, hn, hevents, -, hwhole⟩ :=
    (ran_release attempt).ranAt j trivial |>.closing hopen (isClosed_release h hk hj)
  have huninterrupted : Handles.Uninterrupted attempt.release := by
    intro failure hfailure
    rw [(released_release h).interruption_eq] at hfailure
    cases hfailure
  exact ⟨n, hn, by rw [hevents, hwhole huninterrupted]⟩

end Attempt

end LiveConfig
