import LiveConfig.Proofs.Handle.History
import LiveConfig.Proofs.Session.Journal
import LiveConfig.Proofs.Session.Settle

/-!
# Failures that a refresh contains

A bootstrap that fails leaves nothing to merge, to publish or to discard: its failure goes on, and
all that is done still is to release what it allocated.  What the release itself runs into is of no
consequence: close callbacks that fail are logged, and everything after the release is the same as
if they had not.

The second statement compares two runs whose journals differ in what the close callbacks noted.  All
that follows the release only adds to the journal, so the rest of the two runs is one and the same.

**Results.**
* `Refresher.runOn_refresh_of_error`: what a refresh is when its bootstrap fails.
* `Refresher.exists_runOn_refresh_same`: two bootstraps that differ in their handles lead to the
  same refresh, but for what close callbacks note.
* `Refresher.refresh_contains_failures`: a failed bootstrap changes nothing and leaks nothing, and a
  failed release changes no outcome.
-/

namespace LiveConfig

/-- The notes of a journal but for those of close callbacks. -/
def Journal.withoutCallbacks (j : Journal) : List Note :=
  j.notes.filter fun n => !n.isOfCallback

namespace Journal

theorem withoutCallbacks_append (j k : Journal) :
    (j ++ k).withoutCallbacks = j.withoutCallbacks ++ k.withoutCallbacks :=
  List.filter_append _ _

end Journal

namespace Refresher

variable {r : Refresher} {s bootstrapped : Session} {attempt : Attempt} {old : Entries}

/--
A refresh that starts from a session and has taken its first snapshot makes this attempt at
bootstrapping; its close callbacks fail ordinarily at most.
-/
structure Attempts (r : Refresher) (s : Session) (attempt : Attempt) (bootstrapped : Session) :
    Prop where
  bootstrapper_eq :
    r.bootstrapper (BootstrapRequest.ofEnvironment s.environment refreshOverrides)
      (r.snapshot.runOn (setRefreshing true s)).2 = (attempt, bootstrapped)
  tame : attempt.tracking.handles.Tame

theorem Attempts.released (h : r.Attempts s attempt bootstrapped) : attempt.release.2 = none :=
  (Attempt.released_release h.tame).interruption_eq

/-- A refresh within another one does nothing. -/
theorem runOn_refresh_of_refreshing (r : Refresher) (h : s.refreshing = true) :
    r.refresh.runOn s = (.error .refreshInRefresh, s) := by
  unfold Act.runOn refresh
  rw [h]
  rfl

/-- A refresh whose first snapshot is interrupted does nothing more. -/
theorem runOn_refresh_of_interrupted
    {failure : Failure} (hidle : s.refreshing = false)
    (hold : (extract r.rules.standard s.environment.stack.layers).outcome = .error failure) :
    r.refresh.runOn s =
      (.error failure, setRefreshing false (r.snapshot.runOn (setRefreshing true s)).2) := by
  refine runOn_refresh (x := Act.ofExcept (.error failure)) hidle ?_
  rw [refreshNow_eq, Act.runOn_bind, runOn_snapshot]
  simp only [setRefreshing, hold]
  rfl

/--
What is left of a refresh after the release, given the outcome of the bootstrap and the merge.
-/
def sinceRelease (r : Refresher) (outcome : Except Failure Unit) (before : Entries) :
    Act (List Value) :=
  Act.ofExcept outcome >>= fun _ => r.reportSince before

/-- A refresh whose first snapshot is taken: what its bootstrap and merge led to, and the rest. -/
theorem runOn_refresh_of_loaded
    {outcome : Except Failure Unit} {loaded : Session} (hidle : s.refreshing = false)
    (hold : (extract r.rules.standard s.environment.stack.layers).outcome = .ok old)
    (h : r.Attempts s attempt bootstrapped)
    (hload : (Act.ofExcept attempt.outcome >>= r.mergeResult).runOn bootstrapped =
      (outcome, loaded)) :
    r.refresh.runOn s =
      (((r.sinceRelease outcome old).runOn { loaded with
          journal := loaded.journal ++ attempt.release.1.journal }).1,
        setRefreshing false ((r.sinceRelease outcome old).runOn { loaded with
          journal := loaded.journal ++ attempt.release.1.journal }).2) := by
  have hreload :=
    runOn_reload (r := r) (s := (r.snapshot.runOn (setRefreshing true s)).2)
      h.bootstrapper_eq h.released
  rw [hload] at hreload
  refine runOn_refresh hidle ?_
  rw [runOn_snapshot] at hreload
  rw [refreshNow_eq, Act.runOn_bind, runOn_snapshot]
  simp only [setRefreshing, hold, Act.runOn_bind] at hreload ⊢
  rw [hreload, sinceRelease, Act.runOn_bind, Act.runOn_ofExcept]

/-! ## A bootstrap that fails -/

/-- The failure of a bootstrap goes on; the session is the one that the bootstrap left. -/
theorem runOn_refresh_of_error
    {failure : Failure} (hidle : s.refreshing = false)
    (hold : (extract r.rules.standard s.environment.stack.layers).outcome = .ok old)
    (h : r.Attempts s attempt bootstrapped) (houtcome : attempt.outcome = .error failure) :
    r.refresh.runOn s =
      (.error failure, setRefreshing false { bootstrapped with
        journal := bootstrapped.journal ++ attempt.release.1.journal }) := by
  have hload : (Act.ofExcept attempt.outcome >>= r.mergeResult).runOn bootstrapped =
      (.error failure, bootstrapped) := by
    rw [Act.runOn_bind, Act.runOn_ofExcept, houtcome]
  rw [runOn_refresh_of_loaded hidle hold h hload, sinceRelease, Act.runOn_bind, Act.runOn_ofExcept]

/-! ## Close callbacks that fail -/

theorem onlyAdds_refreshAll (scope : ScopeKind) : Act.OnlyAdds scope.refreshAll := by
  cases scope with
  | lazy publishes => exact Act.onlyAdds_refreshInstances publishes
  | recording => exact Act.onlyAdds_note _
  | failing failure => exact (Act.onlyAdds_note _).bind fun _ => Act.onlyAdds_throw failure

/-- What follows the release does not depend on the journal. -/
theorem onlyAdds_reportSince (r : Refresher) (before : Entries) :
    Act.OnlyAdds (r.reportSince before) := by
  have hsnapshot : Act.OnlyAdds r.snapshot :=
    Act.onlyAdds_get_bind (fun _ _ => rfl) fun _ => Act.onlyAdds_ofTraced _
  refine hsnapshot.bind fun after => (Act.onlyAdds_ofExcept _).bind fun changed => ?_
  refine (Act.onlyAdds_record _ _ _).bind fun _ => (Act.onlyAdds_publishIf _ _).bind fun _ => ?_
  exact (onlyAdds_refreshAll _).bind fun _ _ _ => rfl

/-- A release adds notes of close callbacks to those that the handles had before. -/
theorem withoutCallbacks_release (attempt : Attempt) :
    attempt.release.1.journal.withoutCallbacks =
      attempt.tracking.handles.journal.withoutCallbacks := by
  obtain ⟨notes, hnotes, hof⟩ := attempt.ran_release.exists_notes
  have hnone : notes.filter (fun n => !n.isOfCallback) = [] := by
    refine List.filter_eq_nil_iff.mpr fun n hn => ?_
    rw [hof n hn]
    decide
  rw [Journal.withoutCallbacks, hnotes, List.filter_append, hnone, List.append_nil]
  rfl

theorem onlyAdds_sinceRelease
    (r : Refresher) (outcome : Except Failure Unit) (before : Entries) :
    Act.OnlyAdds (r.sinceRelease outcome before) :=
  (Act.onlyAdds_ofExcept _).bind fun _ => onlyAdds_reportSince r before

/--
Two bootstraps that come to the same outcome and session, with other handles, lead to the same
refresh but for what close callbacks note.
-/
theorem exists_runOn_refresh_same
    {other : Bootstrapper} {attempt' : Attempt} (h : r.Attempts s attempt bootstrapped)
    (h' : { r with bootstrapper := other }.Attempts s attempt' bootstrapped)
    (houtcome : attempt'.outcome = attempt.outcome)
    (hnotes : attempt'.tracking.handles.journal.withoutCallbacks =
      attempt.tracking.handles.journal.withoutCallbacks) :
    ∃ outcome t journal journal',
      r.refresh.runOn s = (outcome, Session.prepend t journal) ∧
      { r with bootstrapper := other }.refresh.runOn s = (outcome, t.prepend journal') ∧
      journal'.withoutCallbacks = journal.withoutCallbacks := by
  cases hidle : s.refreshing with
  | true =>
    exact ⟨.error .refreshInRefresh, s, Journal.empty, Journal.empty,
      runOn_refresh_of_refreshing r hidle, runOn_refresh_of_refreshing _ hidle, rfl⟩
  | false =>
    cases hold : (extract r.rules.standard s.environment.stack.layers).outcome with
    | error failure =>
      exact ⟨.error failure, setRefreshing false (r.snapshot.runOn (setRefreshing true s)).2,
        Journal.empty, Journal.empty, runOn_refresh_of_interrupted hidle hold,
        runOn_refresh_of_interrupted hidle hold, rfl⟩
    | ok old =>
      rcases hload : (Act.ofExcept attempt.outcome >>= r.mergeResult).runOn bootstrapped with
        ⟨outcome, loaded⟩
      have hrun := runOn_refresh_of_loaded hidle hold h hload
      have hrun' := runOn_refresh_of_loaded (r := { r with bootstrapper := other }) hidle hold h'
        (houtcome ▸ hload)
      rw [(onlyAdds_sinceRelease r outcome old).runOn_journal] at hrun
      rw [(onlyAdds_sinceRelease _ outcome old).runOn_journal] at hrun'
      refine ⟨((r.sinceRelease outcome old).runOn { loaded with journal := Journal.empty }).1,
        setRefreshing false
          ((r.sinceRelease outcome old).runOn { loaded with journal := Journal.empty }).2,
        loaded.journal ++ attempt.release.1.journal, loaded.journal ++ attempt'.release.1.journal,
        hrun, hrun', ?_⟩
      rw [Journal.withoutCallbacks_append, Journal.withoutCallbacks_append,
        withoutCallbacks_release, withoutCallbacks_release, hnotes]

/--
**A failed bootstrap changes nothing and leaks nothing, and a failed release changes no outcome.**
The failure of a bootstrap, an interruption too, is that of the refresh.  The session is the one
that the bootstrap left, with the lock free, and nothing is added to its journal but what the
release of its handles adds, of which the notes are those of close callbacks.  Every handle that can
be reached from a tracked one is closed afterwards, and if it was open, each of its callbacks has
run once, newest first.

Where two bootstraps come to the same outcome in the same session and have other handles, whose
callbacks may fail or not, the refreshes come to the same outcome in the same session, and their
notes are the same but for those of close callbacks.
-/
theorem refresh_contains_failures :
    (∀ (r : Refresher) (s bootstrapped : Session) (attempt : Attempt) (failure : Failure)
        (old : Entries),
      s.refreshing = false →
      (extract r.rules.standard s.environment.stack.layers).outcome = .ok old →
      r.Attempts s attempt bootstrapped →
      attempt.outcome = .error failure →
      r.refresh.runOn s =
        (.error failure, setRefreshing false { bootstrapped with
          journal := bootstrapped.journal ++ attempt.release.1.journal }) ∧
      (∃ notes,
        attempt.release.1.journal.notes = attempt.tracking.handles.journal.notes ++ notes ∧
        ∀ n ∈ notes, n.isOfCallback = true) ∧
      ∀ k ∈ attempt.tracking.tracked, ∀ j, attempt.tracking.handles.OnChain (some k) j →
        attempt.release.1.isClosed j = true ∧
        (attempt.tracking.handles.isClosed j = true →
          attempt.release.1.eventsOf j = attempt.tracking.handles.eventsOf j) ∧
        (attempt.tracking.handles.isClosed j = false →
          ∃ n, (attempt.tracking.handles.callbacksOf j).length ≤ n ∧
            attempt.release.1.eventsOf j =
              attempt.tracking.handles.eventsOf j ++ Handles.closingEvents j n)) ∧
    ∀ (r : Refresher) (other : Bootstrapper) (s bootstrapped : Session)
        (attempt attempt' : Attempt),
      r.Attempts s attempt bootstrapped →
      { r with bootstrapper := other }.Attempts s attempt' bootstrapped →
      attempt'.outcome = attempt.outcome →
      attempt'.tracking.handles.journal.withoutCallbacks =
        attempt.tracking.handles.journal.withoutCallbacks →
      ({ r with bootstrapper := other }.refresh.runOn s).1 = (r.refresh.runOn s).1 ∧
      { ({ r with bootstrapper := other }.refresh.runOn s).2 with journal := Journal.empty } =
        { (r.refresh.runOn s).2 with journal := Journal.empty } ∧
      ({ r with bootstrapper := other }.refresh.runOn s).2.journal.withoutCallbacks =
        (r.refresh.runOn s).2.journal.withoutCallbacks := by
  constructor
  · intro r s bootstrapped attempt failure old hidle hold h houtcome
    refine ⟨runOn_refresh_of_error hidle hold h houtcome, attempt.ran_release.exists_notes, ?_⟩
    intro k hk j hj
    refine ⟨Attempt.isClosed_release h.tame hk hj, ?_, Attempt.eventsOf_release h.tame hk hj⟩
    exact (attempt.ran_release.ranAt j trivial).of_closed
  · intro r other s bootstrapped attempt attempt' h h' houtcome hnotes
    obtain ⟨outcome, t, journal, journal', hrun, hrun', hjournal⟩ :=
      exists_runOn_refresh_same h h' houtcome hnotes
    rw [hrun, hrun']
    refine ⟨rfl, rfl, ?_⟩
    rw [Session.prepend, Session.prepend, Journal.withoutCallbacks_append,
      Journal.withoutCallbacks_append, hjournal]

/-! ## An example -/

/-- A refresher with a bootstrap that makes one attempt and leaves the session alone. -/
def attempting (r : Refresher) (attempt : Attempt) : Refresher :=
  { r with bootstrapper := fun _ s => (attempt, s) }

/-- A bootstrap of the example that is interrupted after it has tracked its handles. -/
def interruptedAttempt : Attempt :=
  ⟨⟨exampleHandles, [0, 1]⟩, .error (.raised .interrupt ⟨[.char 'e']⟩)⟩

/-- The handles of the example, of which the other one fails to close. -/
def otherHandles : Handles :=
  Handles.ofList
    [Handle.make ⟨[.char 'p']⟩ none [[.say [letter 'p']]],
      Handle.make ⟨[.char 'c']⟩ (some 0) [[.fail (.raised .runtime ⟨[.char 'e']⟩)]]]

/-- The example with these handles. -/
def otherAttempt (fresh : LayerStack) : Attempt :=
  ⟨⟨otherHandles, [0, 1]⟩, (exampleAttempt fresh).outcome⟩

/--
A bootstrap that is interrupted leaves the live layers, and its parent handle, whose callback fails,
is closed; and it is all the same which one of the handles fails to close.
-/
theorem refresh_contains_failures_example :
    ∃ live fresh,
      live.layers = exampleLive ∧ fresh.layers = exampleFresh ∧
      (((exampleRefresher fresh).attempting interruptedAttempt).refresh.runOn
        (exampleSession live)).1 = .error (.raised .interrupt ⟨[.char 'e']⟩) ∧
      (((exampleRefresher fresh).attempting interruptedAttempt).refresh.runOn
        (exampleSession live)).2.environment.stack.layers = exampleLive ∧
      (∃ n, 1 ≤ n ∧ interruptedAttempt.release.1.eventsOf 0 = Handles.closingEvents 0 n) ∧
      (((exampleRefresher fresh).attempting (otherAttempt fresh)).refresh.runOn
          (exampleSession live)).1 =
        ((exampleRefresher fresh).refresh.runOn (exampleSession live)).1 := by
  have hdistinct : (exampleLive.map Layer.name).Nodup ∧ (exampleFresh.map Layer.name).Nodup := by
    decide
  obtain ⟨live, -, hlive⟩ := LayerStack.exists_ofList hdistinct.1
  obtain ⟨fresh, -, hfresh⟩ := LayerStack.exists_ofList hdistinct.2
  obtain ⟨old, hold⟩ : ∃ old,
      (extract (exampleRefresher fresh).rules.standard live.layers).outcome = .ok old := by
    rw [hlive]
    exact ⟨_, rfl⟩
  have htame : exampleHandles.Tame := by decide
  have htameOther : otherHandles.Tame := by decide
  obtain ⟨hrun, -, hhandles⟩ :=
    refresh_contains_failures.1 ((exampleRefresher fresh).attempting interruptedAttempt)
      (exampleSession live) _ interruptedAttempt _ old rfl hold ⟨rfl, htame⟩ rfl
  obtain ⟨hsame, -, -⟩ :=
    refresh_contains_failures.2 (exampleRefresher fresh) (fun _ s => (otherAttempt fresh, s))
      (exampleSession live) _ (exampleAttempt fresh) (otherAttempt fresh) ⟨rfl, htame⟩
      ⟨rfl, htameOther⟩ rfl rfl
  have hchain : exampleHandles.OnChain (some 1) 0 := ⟨by decide, 1, rfl, .single rfl⟩
  obtain ⟨-, -, hevents⟩ := hhandles 1 (by decide) 0 hchain
  refine ⟨live, fresh, hlive, hfresh, congrArg Prod.fst hrun, ?_, hevents rfl, hsame⟩
  rw [hrun]
  exact hlive

end Refresher

end LiveConfig
