import LiveConfig.Proofs.Handle.Calls
import Mathlib.Data.List.Chain

/-!
# The walk of a release

A release walks from a handle up through its parents and tries to close each one, until there is no
parent or one comes up again.  Which handles these are depends on the parents alone
(`Handles.ParentChain`), and no closing changes a parent, so the whole walk is known before it
starts, whatever the callbacks do to the handles that it has not reached yet.

What is left of a release then are closings, one after another, as they are made from outside
(`Handles.runCalls`), and a warning for each that fails.  A closing does not look at the log and
adds nothing to it (`Handles.close_withLog`), so the warnings stand there alone.

**Results.**
* `Handles.exists_parentChain_releaseFrom`: a walk with enough steps is the closings of its chain.
* `Handles.release_closes_reachable`: what one walk and several walks do, on every graph of
  parents.
-/

namespace LiveConfig

/-- A release that comes after some handles have failed. -/
def Release.after (failed : List Nat) (r : Release) : Release :=
  { r with failed := failed ++ r.failed }

namespace Handles

/-- The handles with another log. -/
def withLog (log : List LogRecord) (s : Handles) : Handles :=
  { s with journal := ⟨s.journal.notes, log⟩ }

/-- A closing with another log. -/
def inLog (log : List LogRecord) (c : Closing) : Closing :=
  (c.1.withLog log, c.2)

/-- The name of a handle. -/
def nameOf (s : Handles) (i : Nat) : Text :=
  ((s.get? i).map Handle.name).getD ""

/-- What is logged for the failures of some handles. -/
def releaseWarnings (s : Handles) (failures : List (Nat × Failure)) : List LogRecord :=
  failures.map fun e => ⟨.warning, .release, releaseFailureText (s.nameOf e.1) e.2⟩

/-- Closes some handles from outside, one after another, with how each closing ended. -/
def closeEach (path : List Nat) (s : Handles) : Handles × List (Option Failure) :=
  runCalls (path.map .close) s

/-- The handles whose own closing fails when some are closed one after another, and how. -/
def failuresIn (path : List Nat) (s : Handles) : List (Nat × Failure) :=
  (path.zip (closeEach path s).2).filterMap fun e => e.2.map (Prod.mk e.1)

/-- Closes some handles one after another, with a warning for each that fails. -/
def releaseAlong (path : List Nat) (s : Handles) : Release where
  handles := (closeEach path s).1.withLog
    (s.journal.log ++ s.releaseWarnings (s.failuresIn path))
  failed := (s.failuresIn path).map Prod.fst
  interrupted := none

/--
The handles from one on, each followed by its parent, up to one whose parent does not exist or is
among them or was seen before.
-/
structure ParentChain (s : Handles) (seen : List Nat) (i : Option Nat) (path : List Nat) :
    Prop where
  head?_eq_some_iff : ∀ k, path.head? = some k ↔ i = some k ∧ k < s.handles.length ∧ k ∉ seen
  isChain : path.IsChain fun a b => s.parentOf a = some b
  lt_length : ∀ k ∈ path, k < s.handles.length
  nodup : path.Nodup
  not_mem_seen : ∀ k ∈ path, k ∉ seen
  parent_mem : ∀ k, path.getLast? = some k → ∀ p, s.parentOf k = some p →
    p < s.handles.length → p ∈ seen ∨ p ∈ path

variable {s t : Handles} {c : Closing} {i : Option Nat} {seen path : List Nat}
variable {log : List LogRecord}

/-! ## The chain of parents -/

namespace ParentChain

/-- There is no handle to start from, or it was seen before. -/
theorem nil (h : ∀ k, i = some k → k < s.handles.length → k ∈ seen) : s.ParentChain seen i [] where
  head?_eq_some_iff k := by
    refine ⟨fun hk => (nomatch hk), ?_⟩
    rintro ⟨hi, hlt, hnew⟩
    exact absurd (h k hi hlt) hnew
  isChain := .nil
  lt_length := List.forall_mem_nil _
  nodup := .nil
  not_mem_seen := List.forall_mem_nil _
  parent_mem _ h := nomatch h

theorem cons
    {k : Nat} (hlt : k < s.handles.length) (hnew : k ∉ seen)
    (h : s.ParentChain (k :: seen) (s.parentOf k) path) :
    s.ParentChain seen (some k) (k :: path) where
  head?_eq_some_iff j := by
    refine ⟨fun hj => ?_, fun hj => hj.1⟩
    obtain rfl : k = j := Option.some.inj hj
    exact ⟨rfl, hlt, hnew⟩
  isChain := List.isChain_cons.mpr ⟨fun j hj => ((h.head?_eq_some_iff j).mp hj).1, h.isChain⟩
  lt_length := List.forall_mem_cons.mpr ⟨hlt, h.lt_length⟩
  nodup := List.nodup_cons.mpr ⟨fun hk => h.not_mem_seen k hk List.mem_cons_self, h.nodup⟩
  not_mem_seen := List.forall_mem_cons.mpr
    ⟨hnew, fun j hj hseen => h.not_mem_seen j hj (List.mem_cons_of_mem k hseen)⟩
  parent_mem j hj p hp hplt := by
    have hafter : p ∈ k :: seen ∨ p ∈ path := by
      cases path with
      | nil =>
        -- the chain ends at its start, since the parent was seen
        obtain rfl : k = j := Option.some.inj hj
        by_contra hnone
        rw [not_or] at hnone
        exact nomatch (h.head?_eq_some_iff p).mpr ⟨hp, hplt, hnone.1⟩
      | cons b rest => exact h.parent_mem j (by rwa [List.getLast?_cons_cons] at hj) p hp hplt
    rw [List.mem_cons] at hafter ⊢
    tauto

theorem of_advances (hadv : s.Advances t) (h : t.ParentChain seen i path) :
    s.ParentChain seen i path where
  head?_eq_some_iff k := by rw [← hadv.length_eq]; exact h.head?_eq_some_iff k
  isChain := by simpa only [hadv.parentOf_eq] using h.isChain
  lt_length := by rw [← hadv.length_eq]; exact h.lt_length
  nodup := h.nodup
  not_mem_seen := h.not_mem_seen
  parent_mem k hk p hp hlt := by
    rw [← hadv.parentOf_eq] at hp
    rw [← hadv.length_eq] at hlt
    exact h.parent_mem k hk p hp hlt

/-- A chain holds what can be reached through parents, and nothing else. -/
theorem mem_iff (h : s.ParentChain [] i path) (j : Nat) : j ∈ path ↔ s.OnChain i j := by
  constructor
  · intro hj
    refine ⟨h.lt_length j hj, ?_⟩
    cases path with
    | nil => cases hj
    | cons k rest =>
      have hstart : i = some k := ((h.head?_eq_some_iff k).mp rfl).1
      refine ⟨k, hstart, ?_⟩
      exact h.isChain.induction (Relation.ReflTransGen (fun a b => s.parentOf a = some b) k) _
        (fun _ _ hstep hreach => hreach.tail hstep) (fun _ => .refl) j hj
  · intro hj
    refine Visited.mem_of_onChain ⟨fun k hk hlt => ?_, fun k hk p hp hlt => ?_⟩ hj
    · exact List.mem_of_mem_head? ((h.head?_eq_some_iff k).mpr ⟨hk, hlt, List.not_mem_nil⟩)
    · obtain ⟨before, after, rfl⟩ := List.append_of_mem hk
      cases after with
      | nil => exact (h.parent_mem k (by simp) p hp hlt).resolve_left List.not_mem_nil
      | cons b rest =>
        -- within the chain the parent comes next
        have hnext : s.parentOf k = some b :=
          (List.isChain_append_cons_cons.mp h.isChain).2.1
        obtain rfl : b = p := Option.some.inj (hnext.symm.trans hp)
        simp

theorem tail {k : Nat} (h : s.ParentChain seen i (k :: path)) :
    s.ParentChain (k :: seen) (s.parentOf k) path where
  head?_eq_some_iff j := by
    obtain ⟨hnext, -⟩ := List.isChain_cons.mp h.isChain
    obtain ⟨hnew, -⟩ := List.nodup_cons.mp h.nodup
    constructor
    · intro hj
      have hmem : j ∈ path := List.mem_of_mem_head? hj
      refine ⟨hnext j hj, h.lt_length j (List.mem_cons_of_mem k hmem), ?_⟩
      rw [List.mem_cons, not_or]
      exact ⟨fun hjk => hnew (hjk ▸ hmem), h.not_mem_seen j (List.mem_cons_of_mem k hmem)⟩
    · rintro ⟨hparent, hlt, hj⟩
      cases path with
      | nil =>
        -- the chain has ended, so this parent was seen
        rcases h.parent_mem k rfl j hparent hlt with hseen | hself
        · exact absurd (List.mem_cons_of_mem k hseen) hj
        · exact absurd (List.mem_cons.mpr (Or.inl (List.mem_singleton.mp hself))) hj
      | cons b rest => exact (hnext b rfl).symm.trans hparent
  isChain := (List.isChain_cons.mp h.isChain).2
  lt_length := (List.forall_mem_cons.mp h.lt_length).2
  nodup := (List.nodup_cons.mp h.nodup).2
  not_mem_seen j hj hseen := by
    rcases List.mem_cons.mp hseen with rfl | hseen
    · exact (List.nodup_cons.mp h.nodup).1 hj
    · exact h.not_mem_seen j (List.mem_cons_of_mem k hj) hseen
  parent_mem j hj p hp hlt := by
    have hlast : (k :: path).getLast? = some j := by
      cases path with
      | nil => cases hj
      | cons b rest => rwa [List.getLast?_cons_cons]
    have hmem := h.parent_mem j hlast p hp hlt
    rw [List.mem_cons] at hmem ⊢
    tauto

/-- Parents leave no choice: there is one chain from a handle. -/
theorem eq_of_parentChain {other : List Nat}
    (h : s.ParentChain seen i path) (hother : s.ParentChain seen i other) : other = path := by
  induction path generalizing seen i other with
  | nil =>
    cases other with
    | nil => rfl
    | cons k rest =>
      exact nomatch (h.head?_eq_some_iff k).mpr ((hother.head?_eq_some_iff k).mp rfl)
  | cons k rest ih =>
    have hstart := (h.head?_eq_some_iff k).mp rfl
    cases other with
    | nil => exact nomatch (hother.head?_eq_some_iff k).mpr hstart
    | cons b more =>
      obtain rfl : k = b :=
        Option.some.inj (hstart.1.symm.trans ((hother.head?_eq_some_iff b).mp rfl).1)
      rw [ih h.tail hother.tail]

end ParentChain

/-! ## Closings and the log -/

@[simp]
theorem withLog_withLog (log log' : List LogRecord) (s : Handles) :
    (s.withLog log').withLog log = s.withLog log :=
  rfl

@[simp]
theorem withLog_log (s : Handles) : s.withLog s.journal.log = s :=
  rfl

section Run

variable {close : Nat → Handles → Closing}
variable (hclose : ∀ (i : Nat) (s : Handles), close i (s.withLog log) = inLog log (close i s))
include hclose

theorem runActions_withLog (actions : List CloseAction) (s : Handles) :
    runActions close actions (s.withLog log) = inLog log (runActions close actions s) := by
  induction actions generalizing s with
  | nil => rfl
  | cons action rest ih =>
    cases action with
    | say items => exact ih (s.note (.said items))
    | fail failure => rfl
    | close i =>
      rw [runActions, runActions, hclose]
      generalize close i s = c
      obtain ⟨t, failure⟩ := c
      cases failure with
      | none => exact ih t
      | some failure => rfl
    | ask i =>
      have hget : (s.withLog log).get? i = s.get? i := rfl
      rw [runActions, runActions, hget]
      cases s.get? i with
      | none => exact ih s
      | some handle => exact ih (s.note (.handle handle.name handle.closed))
    | onClose i callback => exact ih (s.onClose i callback)

theorem runCallbacks_withLog
    (i : Nat) (callbacks : List (List CloseAction × Nat)) (first : Option Failure) (s : Handles) :
    runCallbacks close i callbacks first (s.withLog log) =
      inLog log (runCallbacks close i callbacks first s) := by
  induction callbacks generalizing first s with
  | nil => rfl
  | cons e rest ih =>
    obtain ⟨callback, position⟩ := e
    have hstart : (s.withLog log).recordEvent (.started i position) =
        (s.recordEvent (.started i position)).withLog log := rfl
    rw [runCallbacks, runCallbacks, hstart, runActions_withLog hclose]
    generalize runActions close callback (s.recordEvent (.started i position)) = c
    obtain ⟨t, failure⟩ := c
    cases failure with
    | none => exact ih first t
    | some failure =>
      dsimp only [inLog]
      split
      · exact ih _ t
      · rfl

end Run

theorem finish_inLog (i : Nat) (c : Closing) : finish i (inLog log c) = inLog log (finish i c) := by
  obtain ⟨t, failure⟩ := c
  cases failure with
  | none => rfl
  | some failure =>
    dsimp only [inLog, finish]
    split <;> rfl

theorem closeWithin_withLog (n i : Nat) (s : Handles) :
    closeWithin n i (s.withLog log) = inLog log (closeWithin n i s) := by
  induction n generalizing i s with
  | zero => rfl
  | succ n ih =>
    have hget : (s.withLog log).get? i = s.get? i := rfl
    rw [closeWithin, closeWithin, hget]
    cases s.get? i with
    | none => rfl
    | some handle =>
      dsimp only
      split
      · rfl
      · have hrun : runCallbacks (closeWithin n) i handle.callbacks.zipIdx.reverse none
              ((s.markClosed i).withLog log) =
            inLog log (runCallbacks (closeWithin n) i handle.callbacks.zipIdx.reverse none
              (s.markClosed i)) :=
          runCallbacks_withLog ih i _ none _
        exact (congrArg (finish i) hrun).trans (finish_inLog i _)

/-- A closing neither looks at the log nor changes it. -/
theorem close_withLog (i : Nat) (s : Handles) :
    (s.withLog log).close i = inLog log (s.close i) :=
  closeWithin_withLog _ i s

theorem log_close (i : Nat) (s : Handles) : (s.close i).1.journal.log = s.journal.log := by
  have hsame : s.close i = inLog s.journal.log (s.close i) := close_withLog i s
  rw [hsame]
  rfl

theorem runCalls_withLog (calls : List HandleCall) (s : Handles) :
    runCalls calls (s.withLog log) =
      ((runCalls calls s).1.withLog log, (runCalls calls s).2) := by
  induction calls generalizing s with
  | nil => rfl
  | cons call rest ih =>
    have hcall : runCall call (s.withLog log) = inLog log (runCall call s) := by
      cases call with
      | onClose i callback => rfl
      | close i => exact close_withLog i s
    rw [runCalls, runCalls, hcall]
    dsimp only [inLog]
    rw [ih]

/-! ## Names -/

theorem nameOf_modify
    {f : Handle → Handle} (hf : ∀ handle, (f handle).name = handle.name) (i j : Nat) :
    (s.modify i f).nameOf j = s.nameOf j := by
  unfold nameOf
  rw [get?_modify]
  cases s.get? j with
  | none => rfl
  | some handle =>
    by_cases hij : i = j
    · simp [hij, hf]
    · simp [hij]

theorem nameOf_finish (i : Nat) (c : Closing) (j : Nat) :
    (finish i c).1.nameOf j = c.1.nameOf j := by
  obtain ⟨t, failure⟩ := c
  have hclear : (t.modify i Handle.clearCallbacks).nameOf j = t.nameOf j :=
    nameOf_modify (f := Handle.clearCallbacks) (fun _ => rfl) i j
  cases failure with
  | none => exact hclear
  | some failure =>
    rw [finish]
    split
    · exact hclear
    · rfl

section Names

variable {close : Nat → Handles → Closing} {j : Nat}
variable (hclose : ∀ (i : Nat) (s : Handles), (close i s).1.nameOf j = s.nameOf j)
include hclose

theorem nameOf_runActions (actions : List CloseAction) (s : Handles) :
    (runActions close actions s).1.nameOf j = s.nameOf j := by
  induction actions generalizing s with
  | nil => rfl
  | cons action rest ih =>
    cases action with
    | say items => exact ih (s.note (.said items))
    | fail failure => rfl
    | close i =>
      have hi := hclose i s
      rw [runActions]
      generalize close i s = c at hi ⊢
      obtain ⟨t, failure⟩ := c
      cases failure with
      | none => exact (ih t).trans hi
      | some failure => exact hi
    | ask i =>
      rw [runActions]
      cases s.get? i with
      | none => exact ih s
      | some handle => exact ih (s.note (.handle handle.name handle.closed))
    | onClose i callback =>
      have hregister : (s.onClose i callback).nameOf j = s.nameOf j :=
        nameOf_modify (f := Handle.register callback) (fun _ => rfl) i j
      exact (ih (s.onClose i callback)).trans hregister

theorem nameOf_runCallbacks
    (i : Nat) (callbacks : List (List CloseAction × Nat)) (first : Option Failure) (s : Handles) :
    (runCallbacks close i callbacks first s).1.nameOf j = s.nameOf j := by
  induction callbacks generalizing first s with
  | nil => rfl
  | cons e rest ih =>
    obtain ⟨callback, position⟩ := e
    have hrun : (runActions close callback (s.recordEvent (.started i position))).1.nameOf j =
        s.nameOf j := nameOf_runActions hclose callback (s.recordEvent (.started i position))
    rw [runCallbacks]
    generalize runActions close callback (s.recordEvent (.started i position)) = c at hrun ⊢
    obtain ⟨t, failure⟩ := c
    cases failure with
    | none => exact (ih first t).trans hrun
    | some failure =>
      dsimp only
      split
      · exact (ih _ t).trans hrun
      · exact hrun

end Names

theorem nameOf_closeWithin (n i : Nat) (s : Handles) (j : Nat) :
    (closeWithin n i s).1.nameOf j = s.nameOf j := by
  induction n generalizing i s with
  | zero => rfl
  | succ n ih =>
    rw [closeWithin]
    split
    · rfl
    · rename_i handle hget
      split
      · rfl
      · have hmark : (s.markClosed i).nameOf j = s.nameOf j :=
          nameOf_modify (f := Handle.markClosed) (fun _ => rfl) i j
        rw [nameOf_finish, nameOf_runCallbacks ih, hmark]

/-- No handle gets another name by a closing. -/
theorem nameOf_close (i : Nat) (s : Handles) (j : Nat) : (s.close i).1.nameOf j = s.nameOf j :=
  nameOf_closeWithin _ i s j

/-! ## Walks -/

theorem releaseAlong_nil (s : Handles) : s.releaseAlong [] = ⟨s, [], none⟩ := by
  have hlog : s.journal.log ++ s.releaseWarnings (s.failuresIn []) = s.journal.log :=
    List.append_nil _
  rw [releaseAlong, hlog]
  rfl

section Cons

variable {k : Nat}

theorem closeEach_cons (h : s.close k = c) (path : List Nat) :
    closeEach (k :: path) s = ((closeEach path c.1).1, c.2 :: (closeEach path c.1).2) := by
  subst h
  rfl

theorem releaseAlong_cons_of_none (h : s.close k = (t, none)) (path : List Nat) :
    s.releaseAlong (k :: path) = t.releaseAlong path := by
  have hlog : t.journal.log = s.journal.log := by rw [← log_close k s, h]
  have hname (j : Nat) : t.nameOf j = s.nameOf j := by rw [← nameOf_close k s j, h]
  have hfailures : s.failuresIn (k :: path) = t.failuresIn path := by
    rw [failuresIn, closeEach_cons h]
    rfl
  simp only [releaseAlong, closeEach_cons h, hfailures, releaseWarnings, hlog, hname]

theorem releaseAlong_cons_of_some
    {failure : Failure} (h : s.close k = (t, some failure)) (path : List Nat) :
    s.releaseAlong (k :: path) =
      ((t.recordReleaseFailure (s.nameOf k) failure).releaseAlong path).after [k] := by
  have hlog : t.journal.log = s.journal.log := by rw [← log_close k s, h]
  have hname (j : Nat) : t.nameOf j = s.nameOf j := by rw [← nameOf_close k s j, h]
  -- the record changes nothing for the closings that follow
  have heach : closeEach path (t.recordReleaseFailure (s.nameOf k) failure) =
      ((closeEach path t).1.withLog (t.recordReleaseFailure (s.nameOf k) failure).journal.log,
        (closeEach path t).2) :=
    runCalls_withLog _ t
  have hrest : (t.recordReleaseFailure (s.nameOf k) failure).failuresIn path =
      t.failuresIn path := by
    rw [failuresIn, heach]
    rfl
  have hfailures : s.failuresIn (k :: path) = (k, failure) :: t.failuresIn path := by
    rw [failuresIn, closeEach_cons h]
    rfl
  have hwarnings : s.releaseWarnings ((k, failure) :: t.failuresIn path) =
      ⟨.warning, .release, releaseFailureText (s.nameOf k) failure⟩ ::
        t.releaseWarnings (t.failuresIn path) := by
    simp only [releaseWarnings, hname, List.map_cons]
  have hrecorded : (t.recordReleaseFailure (s.nameOf k) failure).journal.log =
      s.journal.log ++ [⟨.warning, .release, releaseFailureText (s.nameOf k) failure⟩] :=
    congrArg (· ++ _) hlog
  have hlater : (t.recordReleaseFailure (s.nameOf k) failure).releaseWarnings
      (t.failuresIn path) = t.releaseWarnings (t.failuresIn path) := rfl
  rw [releaseAlong, releaseAlong, Release.after, closeEach_cons h, heach, hrest, hfailures,
    hwarnings, hlater, hrecorded, List.append_assoc]
  rfl

end Cons

/--
With more steps than there are handles left to see, a walk comes to the end of its chain of
parents, and has closed each of them in turn.
-/
theorem exists_parentChain_releaseFrom
    {n : Nat} (htame : s.Tame) (hnodup : seen.Nodup) (hseen : ∀ k ∈ seen, s.isClosed k = true)
    (hfuel : s.handles.length < seen.length + n) (i : Option Nat) (failed : List Nat) :
    ∃ path, s.ParentChain seen i path ∧
      releaseFrom n seen i s failed = (s.releaseAlong path).after failed := by
  have hstop {s : Handles} {seen : List Nat} {i : Option Nat} (failed : List Nat)
      (h : ∀ k, i = some k → k < s.handles.length → k ∈ seen) :
      ∃ path, s.ParentChain seen i path ∧
        (⟨s, failed, none⟩ : Release) = (s.releaseAlong path).after failed := by
    refine ⟨[], .nil h, ?_⟩
    rw [releaseAlong_nil, Release.after, List.append_nil]
  induction n generalizing seen i s failed with
  | zero =>
    have := length_le_of_isClosed hnodup hseen
    omega
  | succ n ih =>
    cases i with
    | none => exact hstop failed fun _ hk => nomatch hk
    | some k =>
      rw [releaseFrom]
      by_cases hmem : k ∈ seen
      · rw [if_pos (List.contains_iff_mem.mpr hmem)]
        exact hstop failed fun j hj _ => Option.some.inj hj ▸ hmem
      rw [if_neg (mt List.contains_iff_mem.mp hmem)]
      cases hget : s.get? k with
      | none =>
        refine hstop failed fun j hj hlt => ?_
        obtain rfl : k = j := Option.some.inj hj
        exact absurd (List.getElem?_eq_none_iff.mp hget) (Nat.not_le_of_lt hlt)
      | some handle =>
        have hlt : k < s.handles.length := (List.getElem?_eq_some_iff.mp hget).1
        have hname : s.nameOf k = handle.name := by rw [nameOf, hget]; rfl
        have hcloses := closes_close k s
        have hclosed := isClosed_close hlt
        -- whatever is recorded of a failure, the walk goes on from the closed handle
        have hnext (t : Handles) (failed : List Nat) (hadv : s.Advances t) (htame : t.Tame)
            (hk : t.isClosed k = true) :
            ∃ path, s.ParentChain seen (some k) (k :: path) ∧
              releaseFrom n (k :: seen) (t.parentOf k) t failed =
                (t.releaseAlong path).after failed := by
          have hseen' : ∀ j ∈ k :: seen, t.isClosed j = true :=
            List.forall_mem_cons.mpr ⟨hk, fun j hj => hadv.isClosed_of j (hseen j hj)⟩
          have hfuel' : t.handles.length < (k :: seen).length + n := by
            rw [hadv.length_eq, List.length_cons]
            omega
          obtain ⟨path, hpath, hrun⟩ :=
            ih htame (List.nodup_cons.mpr ⟨hmem, hnodup⟩) hseen' hfuel' (t.parentOf k) failed
          have hparent := hpath.of_advances hadv
          rw [hadv.parentOf_eq] at hparent
          exact ⟨path, hparent.cons hlt hmem, hrun⟩
        dsimp only
        generalize hc : s.close k = c at hcloses hclosed ⊢
        obtain ⟨t, failure⟩ := c
        cases failure with
        | none =>
          obtain ⟨path, hpath, hrun⟩ :=
            hnext t failed hcloses.advances (hcloses.tame_of htame) hclosed
          refine ⟨k :: path, hpath, hrun.trans ?_⟩
          rw [releaseAlong_cons_of_none hc]
        | some failure =>
          dsimp only
          rw [if_pos (hcloses.isOrdinary htame failure rfl)]
          obtain ⟨path, hpath, hrun⟩ :=
            hnext (t.recordReleaseFailure handle.name failure) (failed ++ [k])
              (hcloses.advances.trans (Advances.of_handles_eq rfl)) (hcloses.tame_of htame) hclosed
          refine ⟨k :: path, hpath, hrun.trans ?_⟩
          rw [releaseAlong_cons_of_some hc, hname, Release.after, Release.after, Release.after,
            List.append_assoc]

theorem exists_parentChain_releaseChain (h : s.Tame) (i : Option Nat) :
    ∃ path, s.ParentChain [] i path ∧ s.releaseChain i = s.releaseAlong path := by
  obtain ⟨path, hpath, hrun⟩ :=
    exists_parentChain_releaseFrom (n := s.handles.length + 1) h List.nodup_nil
      (List.forall_mem_nil _) (by simp) i []
  exact ⟨path, hpath, hrun⟩

/-! ## Callbacks -/

theorem count_closingEvents {j n p : Nat} (h : p < n) :
    (closingEvents j n).count (.started j p) = 1 := by
  refine List.count_eq_one_of_mem (nodup_closingEvents j n) (List.mem_cons_of_mem _ ?_)
  exact List.mem_map_of_mem (List.mem_reverse.mpr (List.mem_range.mpr h))

/-- What closes an open handle, and is not interrupted, runs each of its callbacks once. -/
theorem RanAt.count_history_started
    {j p : Nat} (h : RanAt j s c) (huninterrupted : Uninterrupted c)
    (hopen : s.isClosed j = false) (hclosed : c.1.isClosed j = true)
    (hp : p < (s.callbacksOf j).length) :
    c.1.history.count (.started j p) = s.history.count (.started j p) + 1 := by
  obtain ⟨n, events, hn, hevents, -, hwhole⟩ := h.closing hopen hclosed
  have hevents' : c.1.eventsOf j = s.eventsOf j ++ closingEvents j n := by
    rw [hevents, hwhole huninterrupted]
  rw [count_history, count_history]
  show (c.1.eventsOf j).count _ = (s.eventsOf j).count _ + 1
  rw [hevents', List.count_append, count_closingEvents (Nat.lt_of_lt_of_le hp hn)]

/-! ## Releases -/

/--
**A release closes what can be reached, on every graph of parents.**  Let no callback be
interrupted.  Then a walk is not interrupted either.  Its handles are those of the one chain of
parents up to the first repetition, which are all that can be reached.  It leads to what closing
them from outside leads to, each one once and a child before its parent, with a warning for each
that failed; all of them are closed, and those are reported, in order, whose own closing failed.

Several walks are not interrupted, and leave closed what any of them can reach.  If such a handle
was open, every callback that was registered on it has started once.
-/
theorem release_closes_reachable (s : Handles) (h : s.Tame) :
    (∀ start : Option Nat, ∃ path,
      (∀ other, s.ParentChain [] start other ↔ other = path) ∧
      (∀ j, j ∈ path ↔ s.OnChain start j) ∧
      (s.releaseChain start).interrupted = none ∧
      (s.releaseChain start).handles =
        (closeEach path s).1.withLog
          (s.journal.log ++ s.releaseWarnings (s.failuresIn path)) ∧
      (∀ j ∈ path, (s.releaseChain start).handles.isClosed j = true) ∧
      (s.releaseChain start).failed = (s.failuresIn path).map Prod.fst) ∧
    ∀ starts : List (Option Nat),
      (releaseAll starts s).2 = none ∧
      ∀ i ∈ starts, ∀ j, s.OnChain i j →
        (releaseAll starts s).1.isClosed j = true ∧
        (s.isClosed j = false → ∀ p < (s.callbacksOf j).length,
          (releaseAll starts s).1.history.count (.started j p) =
            s.history.count (.started j p) + 1) := by
  constructor
  · intro start
    obtain ⟨path, hpath, hrun⟩ := exists_parentChain_releaseChain h start
    have hclosed := (released_releaseChain h start).isClosed start (List.mem_singleton_self start)
    refine ⟨path, fun other => ⟨hpath.eq_of_parentChain, fun heq => heq ▸ hpath⟩, hpath.mem_iff,
      congrArg Release.interrupted hrun, congrArg Release.handles hrun, ?_,
      congrArg Release.failed hrun⟩
    intro j hj
    exact hclosed j ((hpath.mem_iff j).mp hj)
  · intro starts
    have hreleased := released_releaseAll starts h
    have huninterrupted : Uninterrupted (releaseAll starts s) := by
      intro failure hfailure
      rw [hreleased.interruption_eq] at hfailure
      cases hfailure
    refine ⟨hreleased.interruption_eq, fun i hi j hj => ?_⟩
    have hclosed := hreleased.isClosed i hi j hj
    refine ⟨hclosed, fun hopen p hp => ?_⟩
    exact ((ran_releaseAll starts s).ranAt j trivial).count_history_started huninterrupted hopen
      hclosed hp

/--
Three handles whose parents form a circle, a fourth below them, and one that is closed and its own
parent.  A callback of the first one closes the third, which fails.
-/
def circledHandles : Handles :=
  Handles.ofList
    [Handle.make ⟨[.char 'a']⟩ (some 1) [[.say [.null]], [.close 2]],
      Handle.make ⟨[.char 'b']⟩ (some 2) [[.onClose 0 [.say [.bool true]]]],
      Handle.make ⟨[.char 'c']⟩ (some 0) [[.fail (.raised .value ⟨[.char 'x']⟩)]],
      Handle.make ⟨[.char 'd']⟩ (some 1) [[.fail (.raised .runtime ⟨[.char 'y']⟩)]],
      (Handle.make ⟨[.char 'e']⟩ (some 4) []).markClosed]

/-- The first handle fails with what failed in its callback; the third is closed by then. -/
theorem release_closes_circled :
    circledHandles.Tame ∧
    (circledHandles.releaseChain (some 0)).interrupted = none ∧
    circledHandles.failuresIn [0, 1, 2] = [(0, .raised .value ⟨[.char 'x']⟩)] ∧
    (circledHandles.releaseChain (some 0)).failed = [0] ∧
    (∀ j ∈ [0, 1, 2], (circledHandles.releaseChain (some 0)).handles.isClosed j = true) ∧
    (releaseAll [some 3, none, some 4, some 0, some 3] circledHandles).2 = none ∧
    (releaseAll [some 3, none, some 4, some 0, some 3] circledHandles).1.history.count
      (.started 0 1) = 1 := by
  have htame : circledHandles.Tame := by decide
  have hpath : circledHandles.ParentChain [] (some 0) [0, 1, 2] := by
    refine .cons (by decide) (by decide) (.cons (by decide) (by decide)
      (.cons (by decide) (by decide) (.nil ?_)))
    intro k hk _
    obtain rfl : 0 = k := Option.some.inj hk
    decide
  have hfailures : circledHandles.failuresIn [0, 1, 2] = [(0, .raised .value ⟨[.char 'x']⟩)] := rfl
  obtain ⟨hchain, hall⟩ := release_closes_reachable circledHandles htame
  obtain ⟨path, honly, -, hinterrupted, -, hclosed, hfailed⟩ := hchain (some 0)
  obtain ⟨hnone, hreached⟩ := hall [some 3, none, some 4, some 0, some 3]
  obtain rfl := (honly [0, 1, 2]).mp hpath
  have hzero : circledHandles.OnChain (some 0) 0 := ⟨by decide, 0, rfl, .refl⟩
  refine ⟨htame, hinterrupted, hfailures, ?_, hclosed, hnone, ?_⟩
  · rw [hfailed, hfailures]
    rfl
  · exact (hreached (some 0) (by decide) 0 hzero).2 rfl 1 (by decide)

end Handles

end LiveConfig
