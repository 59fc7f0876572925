import LiveConfig.Proofs.Session.Settle

/-!
# The stages of a refresh

A refresh merges what its bootstrap built, compares its two snapshots, publishes the changed keys
and tells the scope.  What it does up to its merge, up to its comparison and up to the scope is
named here, so that it can be said of a refresh that one of these does not fail, or does the same as
in another refresh.

After the merge only three things can stop a refresh: its comparison, a listener that interrupts,
and the scope.

**Results.**
* `Refresher.runOn_refresh_eq_finish`: a refresh finds what has changed, and reports what it found.
* `Refresher.runOn_findChanges`: how the changes are found, from the bootstrap on.
* `Refresher.environment_of_merged`: what comes after the merge leaves the environment as it is.
* `Refresher.completes_or_fails`: a refresh that has merged completes unless it cannot compare.
-/

namespace LiveConfig

namespace Refresher

variable {r : Refresher} {s t u : Session} {before after : Entries}

/-- A refresh up to its merge, with the snapshot from before. -/
def upToMerge (r : Refresher) : Act Entries := do
  let before ← r.snapshot
  r.reload
  return before

/-- Logs and publishes what a refresh has found changed, and gives the changed keys. -/
def publishFound (r : Refresher) (changed : Entries) : Act (List Value) := do
  Act.record .info .refreshing (refreshedText changed.keys.length)
  Act.publishIf r.publishes (.environmentChange changed.keys)
  return changed.keys

/-- A refresh up to the point where it tells the scope, with the changed keys. -/
def upToScope (r : Refresher) : Act (List Value) := do
  let before ← r.upToMerge
  let after ← r.snapshot
  let changed ← Act.ofExcept (changes before after)
  r.publishFound changed

theorem refreshNow_eq_upToMerge (r : Refresher) :
    r.refreshNow = r.upToMerge >>= r.reportSince := by
  rw [refreshNow_eq]
  simp only [upToMerge, bind_assoc, pure_bind]

theorem refreshNow_eq_upToScope (r : Refresher) :
    r.refreshNow = r.upToScope >>= fun keys => r.scope.refreshAll >>= fun _ => pure keys := by
  rw [refreshNow_eq_upToMerge]
  simp only [upToScope, publishFound, bind_assoc, pure_bind]
  rfl

/-- The comparison of a refresh, if it comes to one, does not fail. -/
def Compares (r : Refresher) (s : Session) : Prop :=
  ∀ before after t u, r.upToMerge.runOn (setRefreshing true s) = (.ok before, t) →
    r.snapshot.runOn t = (.ok after, u) → ∃ changed, changes before after = .ok changed

/-- Whether a refresh that comes to its comparison can compare. -/
def canCompare (r : Refresher) (s : Session) : Bool :=
  match r.upToMerge.runOn (setRefreshing true s) with
  | (.error _, _) => true
  | (.ok before, t) =>
    match (r.snapshot.runOn t).1 with
    | .error _ => true
    | .ok after => (changes before after).isOk

theorem compares_of_canCompare (h : r.canCompare s = true) : r.Compares s := by
  intro before after t u hmerged hsnapshot
  unfold canCompare at h
  simp only [hmerged, hsnapshot] at h
  cases hchanges : changes before after with
  | error failure =>
    rw [hchanges] at h
    cases h
  | ok changed => exact ⟨changed, rfl⟩

/-- The scope does not fail when a refresh tells it to discard its instances. -/
def ScopeAccepts (r : Refresher) (s : Session) : Prop :=
  ∀ keys t, r.upToScope.runOn (setRefreshing true s) = (.ok keys, t) →
    (r.scope.refreshAll.runOn t).1 = .ok ()

/-- A refresh succeeds, or something that is no ordinary failure comes out of it. -/
def Completes (r : Refresher) (s : Session) : Prop :=
  (∃ keys, (r.refresh.runOn s).1 = .ok keys) ∨
    ∃ failure, (r.refresh.runOn s).1 = .error failure ∧ failure.isOrdinary = false

/-! ## Running the stages -/

theorem runOn_upToMerge
    (hbefore : (extract r.rules.standard s.environment.stack.layers).outcome = .ok before)
    (hreload : r.reload.runOn (r.snapshot.runOn (setRefreshing true s)).2 = (.ok (), t)) :
    r.upToMerge.runOn (setRefreshing true s) = (.ok before, t) := by
  unfold upToMerge
  rw [runOn_snapshot] at hreload
  rw [Act.runOn_bind, runOn_snapshot]
  simp only [setRefreshing, hbefore, Act.runOn_bind] at hreload ⊢
  rw [hreload]
  rfl

theorem runOn_refresh_of_idle (hidle : s.refreshing = false) :
    r.refresh.runOn s =
      ((r.refreshNow.runOn (setRefreshing true s)).1,
        setRefreshing false (r.refreshNow.runOn (setRefreshing true s)).2) :=
  runOn_refresh hidle rfl

/-- After its merge a refresh leaves the environment as it is. -/
theorem environment_of_merged
    (hidle : s.refreshing = false)
    (hmerged : r.upToMerge.runOn (setRefreshing true s) = (.ok before, t)) :
    (r.refresh.runOn s).2.environment = t.environment := by
  rw [runOn_refresh_of_idle hidle, refreshNow_eq_upToMerge, Act.runOn_bind, hmerged]
  exact (keeps_reportSince r before).environment t

/-! ## Bootstrapping, merging and releasing -/

theorem keeps_andAlways {γ : Type} {part : Session → γ} {x cleanup : Act Unit}
    (hx : Act.Keeps part x) (hcleanup : Act.Keeps part cleanup) :
    Act.Keeps part (andAlways x cleanup) := by
  intro s
  rw [runOn_andAlways]
  exact (hcleanup (x.runOn s).2).trans (hx s)

/-- Part of a session is kept until the release is done if merging keeps it and it is no journal. -/
theorem keeps_load {γ : Type} {part : Session → γ}
    (hmerge : ∀ result, Act.Keeps part (r.mergeResult result))
    (hjournal : ∀ s journal, part { s with journal := journal } = part s) (attempt : Attempt) :
    Act.Keeps part
      (andAlways (Act.ofExcept attempt.outcome >>= r.mergeResult) (releaseAttempt attempt)) := by
  refine keeps_andAlways (Act.Keeps.bind (fun _ => rfl) hmerge) fun s => ?_
  rw [runOn_releaseAttempt]
  exact hjournal s _

/-- The attempt that the bootstrap of a refresh makes, and the session that it leaves. -/
def bootstrapFrom (r : Refresher) (s : Session) : Attempt × Session :=
  r.bootstrapper (BootstrapRequest.ofEnvironment s.environment refreshOverrides)
    (r.snapshot.runOn (setRefreshing true s)).2

theorem runOn_reload_eq (r : Refresher) (s : Session) :
    r.reload.runOn (r.snapshot.runOn (setRefreshing true s)).2 =
      (andAlways (Act.ofExcept (r.bootstrapFrom s).1.outcome >>= r.mergeResult)
        (releaseAttempt (r.bootstrapFrom s).1)).runOn (r.bootstrapFrom s).2 := by
  unfold reload bootstrapFrom
  rw [Act.runOn_bind, Act.runOn_get, runOn_snapshot]
  simp only [Act.runOn_bind, Act.runOn_set, setRefreshing]

/-! ## Finding changes and reporting them -/

/-- A refresh up to the point where it knows what has changed. -/
def findChanges (r : Refresher) : Act Entries := do
  let before ← r.upToMerge
  let after ← r.snapshot
  Act.ofExcept (changes before after)

/-- A refresh from the point where it knows what has changed. -/
def report (r : Refresher) (found : Except Failure Entries) : Act (List Value) := do
  let changed ← Act.ofExcept found
  Act.record .info .refreshing (refreshedText changed.keys.length)
  r.announce changed.keys

/-- How a refresh ends that has found changes, or has failed, and has come to a session. -/
def finish (r : Refresher) (found : Except Failure Entries) (u : Session) :
    Except Failure (List Value) × Session :=
  (((r.report found).runOn u).1, setRefreshing false ((r.report found).runOn u).2)

/-- A refresh finds what has changed and reports it. -/
theorem runOn_refresh_eq_finish
    {found : Except Failure Entries} (hidle : s.refreshing = false)
    (h : r.findChanges.runOn (setRefreshing true s) = (found, u)) :
    r.refresh.runOn s = r.finish found u := by
  have hnow : r.refreshNow = r.findChanges >>= fun changed => r.report (.ok changed) := by
    rw [refreshNow_eq_upToMerge]
    simp only [findChanges, report, bind_assoc]
    rfl
  refine runOn_refresh hidle ?_
  rw [hnow, Act.runOn_bind, h]
  cases found with
  | error failure => rfl
  | ok changed => rfl

/-- A refresh whose first snapshot is taken, from its bootstrap on. -/
theorem runOn_findChanges
    (r : Refresher) (s : Session) :
    r.findChanges.runOn (setRefreshing true s) =
      match (extract r.rules.standard s.environment.stack.layers).outcome with
      | .error failure => (.error failure, (r.snapshot.runOn (setRefreshing true s)).2)
      | .ok before =>
        (andAlways (Act.ofExcept (r.bootstrapFrom s).1.outcome >>= r.mergeResult)
            (releaseAttempt (r.bootstrapFrom s).1) >>= fun _ =>
          r.snapshot >>= fun after => Act.ofExcept (changes before after)).runOn
            (r.bootstrapFrom s).2 := by
  have hbefore : r.snapshot.runOn (setRefreshing true s) =
      ((extract r.rules.standard s.environment.stack.layers).outcome,
        (r.snapshot.runOn (setRefreshing true s)).2) := rfl
  have hreload := r.runOn_reload_eq s
  generalize (r.snapshot.runOn (setRefreshing true s)).2 = t at hbefore hreload ⊢
  simp only [findChanges, upToMerge, bind_assoc, pure_bind]
  rw [Act.runOn_bind, hbefore]
  cases (extract r.rules.standard s.environment.stack.layers).outcome with
  | error failure => rfl
  | ok before =>
    dsimp only
    rw [Act.runOn_bind, hreload, Act.runOn_bind]

theorem environment_finish (r : Refresher) (found : Except Failure Entries) (u : Session) :
    (r.finish found u).2.environment = u.environment := by
  have hreport : Act.Keeps Session.environment (r.report found) := by
    refine Act.Keeps.bind (fun _ => rfl) fun changed => ?_
    exact Act.Keeps.bind (fun _ => rfl) fun _ => keeps_announce r changed.keys
  exact hreport u

/-! ## How a refresh ends -/

/-- Publishing fails by interruptions only. -/
theorem failsOnly_publishFound (r : Refresher) (changed : Entries) :
    Act.FailsOnly (fun failure => failure.isOrdinary = false) (r.publishFound changed) := by
  have hrecord : Act.FailsOnly (fun failure => failure.isOrdinary = false)
      (Act.record .info .refreshing (refreshedText changed.keys.length)) :=
    fun _ _ h => nomatch h
  exact hrecord.bind fun _ => (Act.failsOnly_publishIf _ _).bind fun _ _ _ h => nomatch h

/-- After its merge a refresh is stopped by its comparison or by an interruption. -/
theorem failure_upToScope
    {failure : Failure} (hmerged : r.upToMerge.runOn (setRefreshing true s) = (.ok before, t))
    (hafter : (extract r.rules.standard t.environment.stack.layers).outcome = .ok after)
    (h : (r.upToScope.runOn (setRefreshing true s)).1 = .error failure) :
    changes before after = .error failure ∨ failure.isOrdinary = false := by
  unfold upToScope at h
  rw [Act.runOn_bind, hmerged] at h
  simp only [Act.runOn_bind, runOn_snapshot, hafter, Act.runOn_ofExcept] at h
  cases hchanges : changes before after with
  | error other =>
    rw [hchanges] at h
    obtain rfl : other = failure := Except.error.inj h
    exact .inl rfl
  | ok changed =>
    rw [hchanges] at h
    exact .inr (failsOnly_publishFound r changed _ failure h)

/-- A refresh that has merged and is accepted by the scope completes or fails to compare. -/
theorem completes_or_fails
    (hidle : s.refreshing = false) (hscope : r.ScopeAccepts s)
    (hmerged : r.upToMerge.runOn (setRefreshing true s) = (.ok before, t))
    (hafter : (extract r.rules.standard t.environment.stack.layers).outcome = .ok after) :
    r.Completes s ∨
      ∃ failure, changes before after = .error failure ∧
        (r.refresh.runOn s).1 = .error failure := by
  have houtcome : (r.refresh.runOn s).1 =
      ((r.upToScope >>= fun keys => r.scope.refreshAll >>= fun _ => pure keys).runOn
        (setRefreshing true s)).1 := by
    rw [runOn_refresh_of_idle hidle, refreshNow_eq_upToScope]
  rw [Act.runOn_bind] at houtcome
  rcases hup : r.upToScope.runOn (setRefreshing true s) with ⟨failure | keys, u⟩
  · rw [hup] at houtcome
    rcases failure_upToScope hmerged hafter (congrArg Prod.fst hup) with hchanges | hinterrupted
    · exact .inr ⟨failure, hchanges, houtcome⟩
    · exact .inl (.inr ⟨failure, houtcome, hinterrupted⟩)
  · have haccepts := hscope keys u hup
    rw [hup] at houtcome
    simp only [Act.runOn_bind] at houtcome
    rcases hall : r.scope.refreshAll.runOn u with ⟨failure | _, v⟩
    · rw [hall] at haccepts
      cases haccepts
    · rw [hall] at houtcome
      exact .inl (.inl ⟨keys, houtcome⟩)

theorem not_completes_of_error
    {failure : Failure} (h : (r.refresh.runOn s).1 = .error failure)
    (hordinary : failure.isOrdinary = true) : ¬ r.Completes s := by
  rintro (⟨keys, hkeys⟩ | ⟨other, hother, hinterrupted⟩)
  · rw [h] at hkeys
    cases hkeys
  · rw [h] at hother
    obtain rfl := Except.error.inj hother
    rw [hordinary] at hinterrupted
    cases hinterrupted

end Refresher

end LiveConfig
