import LiveConfig.Proofs.Session.Act
import LiveConfig.Proofs.Stack.Basic
import LiveConfig.Session.Refresh

/-!
# The parts of a refresh

A refresh takes snapshots, bootstraps, merges and releases.  There is one equation for a run of each
part, which says what the part does to the session.

**Results.**
* `Refresher.incomingLayers_eq`: the overrides are left out of what a bootstrap built, and nothing
  else.
* `Refresher.runOn_reload`: a bootstrap is merged if it succeeds, and all that it allocated is
  released in any case.
-/

namespace LiveConfig

namespace Refresher

variable {r : Refresher} {s : Session}

/-- The layers of a bootstrap but for its overrides. -/
def freshLayers (result : BootstrapResult) : List Layer :=
  result.environment.stack.layers.filter fun layer => layer.name != Names.refreshArgs

theorem incomingLayers_eq (result : BootstrapResult) :
    incomingLayers result = .ok (freshLayers result) := by
  unfold incomingLayers
  by_cases h : (Names.refreshArgs : Text) ∈ result.environment.stack.names
  · obtain ⟨t, old, hremove, hlayers⟩ := LayerStack.remove_ok h
    simp only [LayerStack.contains_iff.mpr h, hremove, if_true]
    exact congrArg Except.ok hlayers
  · have hkeep : ∀ layer ∈ result.environment.stack.layers,
        (layer.name != (Names.refreshArgs : Text)) = true := by
      intro layer hlayer
      refine bne_iff_ne.mpr fun heq => h ?_
      exact LayerStack.mem_names_iff.mpr ⟨layer, hlayer, heq⟩
    simp only [LayerStack.contains_eq_false_iff.mpr h, Bool.false_eq_true, if_false]
    exact congrArg Except.ok (List.filter_eq_self.mpr hkeep).symm

theorem runOn_snapshot (r : Refresher) (s : Session) :
    r.snapshot.runOn s =
      ((extract r.rules.standard s.environment.stack.layers).outcome,
        { s with
          journal := s.journal.addRecords
            (extract r.rules.standard s.environment.stack.layers).log }) := rfl

/-- A merge that succeeds changes the live layers and only logs otherwise. -/
theorem exists_runOn_mergeResult
    {result : BootstrapResult} {merged : LayerStack} {report : MergeReport}
    (h : (merge r.rules s.environment.stack (freshLayers result)).outcome =
      .ok (merged, report)) :
    ∃ journal, journal.notes = s.journal.notes ∧
      (r.mergeResult result).runOn s =
        (.ok (), { s with
          environment := { s.environment with stack := merged }
          journal := journal }) := by
  unfold mergeResult
  rw [Act.runOn_bind, Act.runOn_ofExcept, incomingLayers_eq]
  simp only [Act.runOn_bind, Act.runOn_get, Act.runOn_ofTraced, h, Act.runOn_modify,
    Act.runOn_record]
  refine ⟨_, ?_, rfl⟩
  rfl

/-- A release adds to the journal and fails if it was interrupted. -/
theorem runOn_releaseAttempt (attempt : Attempt) (s : Session) :
    (releaseAttempt attempt).runOn s =
      (attempt.release.2.elim (.ok ()) .error,
        { s with journal := s.journal ++ attempt.release.1.journal }) := by
  unfold releaseAttempt
  rcases attempt.release with ⟨handles, interruption⟩
  cases interruption with
  | none => rfl
  | some failure => rfl

/-- Cleaning up comes last, and the outcome is that of what came first unless it fails itself. -/
theorem runOn_andAlways (x cleanup : Act Unit) (s : Session) :
    (andAlways x cleanup).runOn s =
      ((cleanup.runOn (x.runOn s).2).1 >>= fun _ => (x.runOn s).1,
        (cleanup.runOn (x.runOn s).2).2) := by
  unfold Act.runOn andAlways
  rcases x s with ⟨outcome, t⟩
  dsimp only
  rcases cleanup t with ⟨failure | _, u⟩
  · rfl
  · rfl

/-- What a bootstrap built is merged if it built anything, and what it allocated is released. -/
theorem runOn_reload
    {attempt : Attempt} {bootstrapped : Session}
    (hbootstrap : r.bootstrapper (BootstrapRequest.ofEnvironment s.environment refreshOverrides) s =
      (attempt, bootstrapped))
    (hrelease : attempt.release.2 = none) :
    r.reload.runOn s =
      (((Act.ofExcept attempt.outcome >>= r.mergeResult).runOn bootstrapped).1,
        { ((Act.ofExcept attempt.outcome >>= r.mergeResult).runOn bootstrapped).2 with
          journal :=
            ((Act.ofExcept attempt.outcome >>= r.mergeResult).runOn bootstrapped).2.journal ++
              attempt.release.1.journal }) := by
  generalize hload : (Act.ofExcept attempt.outcome >>= r.mergeResult).runOn bootstrapped = loaded
  unfold reload
  simp only [Act.runOn_bind, Act.runOn_get, hbootstrap, Act.runOn_set]
  rw [runOn_andAlways, hload, runOn_releaseAttempt, hrelease]
  rfl

/-- A bootstrap that succeeds is merged, and what it allocated is released after that. -/
theorem exists_runOn_reload
    {attempt : Attempt} {result : BootstrapResult} {bootstrapped : Session}
    {merged : LayerStack} {report : MergeReport}
    (hbootstrap : r.bootstrapper (BootstrapRequest.ofEnvironment s.environment refreshOverrides) s =
      (attempt, bootstrapped))
    (houtcome : attempt.outcome = .ok result)
    (hmerge : (merge r.rules bootstrapped.environment.stack (freshLayers result)).outcome =
      .ok (merged, report))
    (hrelease : attempt.release.2 = none) :
    ∃ journal,
      journal.notes = bootstrapped.journal.notes ++ attempt.release.1.journal.notes ∧
      r.reload.runOn s =
        (.ok (), { bootstrapped with
          environment := { bootstrapped.environment with stack := merged }
          journal := journal }) := by
  obtain ⟨journal, hnotes, hrun⟩ := exists_runOn_mergeResult hmerge
  refine ⟨journal ++ attempt.release.1.journal, congrArg (· ++ _) hnotes, ?_⟩
  have hload : (Act.ofExcept attempt.outcome >>= r.mergeResult).runOn bootstrapped =
      (.ok (), { bootstrapped with
        environment := { bootstrapped.environment with stack := merged }
        journal := journal }) := by
    rw [Act.runOn_bind, Act.runOn_ofExcept, houtcome]
    exact hrun
  rw [runOn_reload hbootstrap hrelease, hload]

end Refresher

end LiveConfig
