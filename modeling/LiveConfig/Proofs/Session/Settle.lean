import LiveConfig.Proofs.Session.Refresh
import LiveConfig.Proofs.Stack.Again

/-!
# Refreshing again and again

The bootstrap of a refresh is merged before anything is compared.  So the live layers are the
merge also where the comparison fails afterwards, or a listener or the scope does.  A source that
gives the same layers every time is merged again by the next refresh, which changes no layer; from
then on both snapshots of a refresh are the same.

**Results.**
* `Refresher.bare_refresh`: what a refresh leaves behind once its bootstrap has succeeded,
  whatever comes after the merge.
* `Refresher.Steady.merges`: every refresh of a steady source merges into what the one before
  left.
* `Refresher.refresh_settles`: merging again changes nothing, and every refresh after the first
  reports nothing.
-/

namespace LiveConfig

namespace Layer

variable {excluded : List Text}

theorem mem_pruneTops
    {layers : List Layer} {pruned : Layer} :
    pruned ∈ pruneTops excluded layers ↔
      ∃ layer ∈ layers,
        (excluded.contains layer.name || layer.isLookup || layer.isUnreadable) = false ∧
          layer.prune = pruned := by
  unfold pruneTops
  rw [List.mem_map]
  simp only [List.mem_filter, Bool.not_eq_true', and_assoc]

/-- More layers have more entries in their readable part. -/
theorem entriesIn_pruneTops_mono
    {layers more : List Layer} (h : ∀ layer ∈ layers, layer ∈ more) {e : Value × Value}
    (he : e ∈ entriesIn (pruneTops excluded layers)) :
    e ∈ entriesIn (pruneTops excluded more) := by
  obtain ⟨pruned, hpruned, hentry⟩ := mem_entriesIn.mp he
  obtain ⟨layer, hlayer, hkept, hprune⟩ := mem_pruneTops.mp hpruned
  exact mem_entriesIn.mpr ⟨pruned, mem_pruneTops.mpr ⟨layer, h layer hlayer, hkept, hprune⟩, hentry⟩

end Layer

/-- Layers that fail ordinarily have a snapshot, of keys and values that stand in them. -/
theorem exists_extract
    {excluded : List Text} {layers : List Layer}
    (hord : ∀ layer ∈ Layer.outside excluded layers,
      layer.everywhere Layer.failsOrdinarily = true)
    {p q : Value → Prop}
    (h : ∀ e ∈ Layer.entriesIn (Layer.pruneTops excluded layers), p e.1 ∧ q e.2) :
    ∃ snapshot,
      (extract excluded layers).outcome = .ok snapshot ∧
      ∀ e ∈ snapshot.entries, p e.1 ∧ q e.2 := by
  refine ⟨_, extract_eq_writeTables ?_, ?_⟩
  · intro layer hlayer hname
    exact hord layer (Layer.mem_outside.mpr ⟨hlayer, hname⟩)
  · rw [Layer.writeTables_eq_insertAll]
    refine Table.forall_insertAll (List.forall_mem_nil _) ?_
    intro e he
    obtain ⟨t, ht, hmem⟩ := List.mem_flatMap.mp he
    exact h e (List.mem_flatMap.mpr ⟨t, List.mem_reverse.mp ht, hmem⟩)

namespace Refresher

variable {r : Refresher} {s : Session}

/-! ## One refresh -/

/-- What is left of a refresh once the bootstrap is merged, given the snapshot from before. -/
def reportSince (r : Refresher) (before : Entries) : Act (List Value) := do
  let after ← r.snapshot
  let changed ← Act.ofExcept (changes before after)
  Act.record .info .refreshing (refreshedText changed.keys.length)
  r.announce changed.keys

theorem refreshNow_eq (r : Refresher) :
    r.refreshNow =
      r.snapshot >>= fun before => r.reload >>= fun _ => r.reportSince before := rfl

theorem keeps_reportSince (r : Refresher) (before : Entries) :
    Act.Keeps Session.bare (r.reportSince before) := by
  have hsnapshot : Act.Keeps Session.bare r.snapshot := fun _ => rfl
  refine hsnapshot.bind fun after => (Act.keeps_ofExcept _).bind fun changed => ?_
  refine (Act.keeps_record _ _ _).bind fun _ => (Act.keeps_publishIf _ _).bind fun _ => ?_
  exact (keeps_refreshAll _).bind fun _ _ => rfl

/--
The bootstrap that a refresh starts from a session succeeds, and its release is not interrupted.
-/
structure Bootstraps (r : Refresher) (s : Session) (attempt : Attempt) (result : BootstrapResult)
    (bootstrapped : Session) : Prop where
  bootstrapper_eq :
    r.bootstrapper (BootstrapRequest.ofEnvironment s.environment refreshOverrides)
      (r.snapshot.runOn (setRefreshing true s)).2 = (attempt, bootstrapped)
  outcome_eq : attempt.outcome = .ok result
  released : attempt.release.2 = none

section Bootstraps

variable {attempt : Attempt} {result : BootstrapResult} {bootstrapped : Session}
variable {merged : LayerStack} {report : MergeReport} {old : Entries}

/--
Once the bootstrap is merged and released, all that is left of a refresh is to compare and report.
-/
theorem exists_runOn_refresh_merged
    (h : r.Bootstraps s attempt result bootstrapped) (hidle : s.refreshing = false)
    (hold : (extract r.rules.standard s.environment.stack.layers).outcome = .ok old)
    (hmerge : (merge r.rules bootstrapped.environment.stack (freshLayers result)).outcome =
      .ok (merged, report)) :
    ∃ t,
      t = { bootstrapped with
        environment := { bootstrapped.environment with stack := merged }
        journal := t.journal } ∧
      t.journal.notes = bootstrapped.journal.notes ++ attempt.release.1.journal.notes ∧
      r.refresh.runOn s =
        (((r.reportSince old).runOn t).1, setRefreshing false ((r.reportSince old).runOn t).2) := by
  obtain ⟨journal, hnotes, hreload⟩ :=
    exists_runOn_reload (r := r) (s := (r.snapshot.runOn (setRefreshing true s)).2)
      h.bootstrapper_eq h.outcome_eq hmerge h.released
  refine ⟨{ bootstrapped with
    environment := { bootstrapped.environment with stack := merged }
    journal := journal }, rfl, hnotes, runOn_refresh hidle ?_⟩
  rw [refreshNow_eq, Act.runOn_bind, runOn_snapshot]
  rw [runOn_snapshot] at hreload
  simp only [setRefreshing, hold, Act.runOn_bind] at hreload ⊢
  rw [hreload]

/--
A refresh leaves the session of its bootstrap with the merged layers, but for what listeners and the
scope can change.
-/
theorem bare_refresh
    (h : r.Bootstraps s attempt result bootstrapped) (hidle : s.refreshing = false)
    (hold : (extract r.rules.standard s.environment.stack.layers).outcome = .ok old)
    (hmerge : (merge r.rules bootstrapped.environment.stack (freshLayers result)).outcome =
      .ok (merged, report)) :
    (r.refresh.runOn s).2.bare =
      (setRefreshing false { bootstrapped with
        environment := { bootstrapped.environment with stack := merged } }).bare := by
  obtain ⟨t, ht, -, hrun⟩ := exists_runOn_refresh_merged h hidle hold hmerge
  rw [hrun]
  have hkept : ((r.reportSince old).runOn t).2.bare = t.bare := keeps_reportSince r old t
  have hbare : t.bare = Session.bare { bootstrapped with
      environment := { bootstrapped.environment with stack := merged } } := by
    rw [ht]
    rfl
  exact congrArg (setRefreshing false) (hkept.trans hbare)

/--
A refresh whose merge changes no layer has nothing to announce, if the keys and values of the live
layers are equal to themselves.
-/
theorem exists_runOn_refresh_unchanged
    (h : r.Bootstraps s attempt result bootstrapped) (hidle : s.refreshing = false)
    (hold : (extract r.rules.standard s.environment.stack.layers).outcome = .ok old)
    (hself : ∀ e ∈ old.entries, (e.1 == e.1) = true ∧ e.2.equal? e.2 = .ok true)
    (hmerge : (merge r.rules bootstrapped.environment.stack (freshLayers result)).outcome =
      .ok (merged, report))
    (hsame : merged.layers = s.environment.stack.layers) :
    ∃ t,
      t = { bootstrapped with
        environment := { bootstrapped.environment with stack := merged }
        journal := t.journal } ∧
      r.refresh.runOn s =
        (((r.announce []).runOn t).1, setRefreshing false ((r.announce []).runOn t).2) := by
  have hnew : (extract r.rules.standard merged.layers).outcome = .ok old := hsame ▸ hold
  obtain ⟨t, ht, -, hrun⟩ :=
    exists_runOn_refreshNow (s := setRefreshing true s) hold h.bootstrapper_eq h.outcome_eq
      hmerge h.released hnew (changes_self hself)
  exact ⟨t, ht, runOn_refresh hidle hrun⟩

end Bootstraps

/-! ## Many refreshes -/

/-- The session after some refreshes in a row. -/
def sessionAfter (r : Refresher) (s : Session) : Nat → Session
  | 0 => s
  | n + 1 => (r.refresh.runOn (r.sessionAfter s n)).2

/--
A source that gives the same layers on every call and leaves the live ones alone, where the compared
layers fail no more than ordinarily, and the keys and values read from them are equal to themselves.
-/
structure Steady (r : Refresher) (s : Session) (fresh : List Layer) : Prop where
  idle : s.refreshing = false
  bootstraps : ∀ n, ∃ attempt result bootstrapped,
    r.Bootstraps (r.sessionAfter s n) attempt result bootstrapped ∧
      freshLayers result = fresh ∧
      bootstrapped.environment.stack = (r.sessionAfter s n).environment.stack
  ordinary : ∀ layer ∈ r.compared (s.environment.stack.layers ++ fresh),
    layer.everywhere Layer.failsOrdinarily = true
  self_equal : ∀ e ∈ Layer.entriesIn
      (Layer.pruneTops r.rules.standard (s.environment.stack.layers ++ fresh)),
    (e.1 == e.1) = true ∧ e.2.equal? e.2 = .ok true

namespace Steady

variable {fresh : List Layer}

/-- Layers that were live at first or come from the source have a snapshot equal to itself. -/
theorem exists_snapshot
    (h : r.Steady s fresh) {layers : List Layer}
    (hlayers : ∀ layer ∈ layers, layer ∈ s.environment.stack.layers ∨ layer ∈ fresh) :
    ∃ snapshot,
      (extract r.rules.standard layers).outcome = .ok snapshot ∧
      ∀ e ∈ snapshot.entries, (e.1 == e.1) = true ∧ e.2.equal? e.2 = .ok true := by
  refine exists_extract (p := fun k => (k == k) = true) (q := fun v => v.equal? v = .ok true) ?_ ?_
  · intro layer hlayer
    exact h.ordinary layer (mem_compared_append hlayers hlayer)
  · intro e he
    refine h.self_equal e (Layer.entriesIn_pruneTops_mono ?_ he)
    exact fun layer hlayer => List.mem_append.mpr (hlayers layer hlayer)

/-- What holds of the session after any number of refreshes. -/
theorem layers_sessionAfter
    (h : r.Steady s fresh) (n : Nat) :
    (r.sessionAfter s n).refreshing = false ∧
    ∀ layer ∈ (r.sessionAfter s n).environment.stack.layers,
      layer ∈ s.environment.stack.layers ∨ layer ∈ fresh := by
  induction n with
  | zero => exact ⟨h.idle, fun _ => Or.inl⟩
  | succ n ih =>
    obtain ⟨hidle, hlayers⟩ := ih
    obtain ⟨attempt, result, bootstrapped, hboot, rfl, hstack⟩ := h.bootstraps n
    obtain ⟨old, hold, -⟩ := h.exists_snapshot hlayers
    obtain ⟨merged, report, hmerge, hmem⟩ :=
      exists_merged r.rules bootstrapped.environment.stack (freshLayers result)
    have hbare := bare_refresh hboot hidle hold hmerge
    have hrefreshing : (r.sessionAfter s (n + 1)).refreshing = false :=
      congrArg Session.refreshing hbare
    have hmerged : (r.sessionAfter s (n + 1)).environment.stack = merged :=
      congrArg (fun t => t.environment.stack) hbare
    refine ⟨hrefreshing, ?_⟩
    intro layer hlayer
    rw [hmerged] at hlayer
    rcases hmem layer hlayer with hlive | hfresh
    · exact hlayers layer (hstack ▸ hlive)
    · exact Or.inr hfresh

/-- Every refresh merges the layers of the source into those that it finds. -/
theorem merges
    (h : r.Steady s fresh) (n : Nat) :
    ∃ report, (merge r.rules (r.sessionAfter s n).environment.stack fresh).outcome =
      .ok ((r.sessionAfter s (n + 1)).environment.stack, report) := by
  obtain ⟨hidle, hlayers⟩ := h.layers_sessionAfter n
  obtain ⟨attempt, result, bootstrapped, hboot, rfl, hstack⟩ := h.bootstraps n
  obtain ⟨old, hold, -⟩ := h.exists_snapshot hlayers
  obtain ⟨merged, report, hmerge, -⟩ :=
    exists_merged r.rules bootstrapped.environment.stack (freshLayers result)
  have hmerged : (r.sessionAfter s (n + 1)).environment.stack = merged :=
    congrArg (fun t => t.environment.stack) (bare_refresh hboot hidle hold hmerge)
  exact ⟨report, by rw [hmerged, ← hstack, hmerge]⟩

/-- From the first refresh on the layers stay. -/
theorem layers_eq
    (h : r.Steady s fresh) (n : Nat) :
    (r.sessionAfter s (n + 2)).environment.stack.layers =
      (r.sessionAfter s (n + 1)).environment.stack.layers := by
  obtain ⟨report, hfirst⟩ := h.merges n
  obtain ⟨report', hsecond⟩ := h.merges (n + 1)
  obtain ⟨again, hagain, hlayers⟩ := exists_merged_again hfirst
  obtain ⟨heq, -⟩ := Prod.mk.inj (Except.ok.inj (hsecond.symm.trans hagain))
  rw [heq, hlayers]

end Steady

/--
**Merging is idempotent, and a steady source settles at once.**  A second merge of the same layers
leaves every layer where it is; it adds nothing, skips the standard layers and replaces by all
others.  Every refresh of a steady source merges its layers into the live ones, and every refresh
after the first leaves the live layers as they are and announces that no key has changed: unless a
listener interrupts or the scope fails, it returns no keys.
-/
theorem refresh_settles :
    (∀ (rules : MergeRules) (live : LayerStack) (incoming : List Layer),
      ∃ merged report again,
        (merge rules live incoming).outcome = .ok (merged, report) ∧
        (merge rules merged incoming).outcome =
          .ok (again,
            ⟨(incoming.map Layer.name).filter fun name => !rules.standard.contains name, [],
              (incoming.map Layer.name).filter fun name => rules.standard.contains name⟩) ∧
        again.layers = merged.layers) ∧
    ∀ (r : Refresher) (s : Session) (fresh : List Layer), r.Steady s fresh → ∀ n,
      (∃ report, (merge r.rules (r.sessionAfter s n).environment.stack fresh).outcome =
        .ok ((r.sessionAfter s (n + 1)).environment.stack, report)) ∧
      (r.sessionAfter s (n + 2)).environment.stack.layers =
        (r.sessionAfter s (n + 1)).environment.stack.layers ∧
      ∃ attempt result bootstrapped t,
        r.Bootstraps (r.sessionAfter s (n + 1)) attempt result bootstrapped ∧
        t = { bootstrapped with
          environment := { bootstrapped.environment with
            stack := (r.sessionAfter s (n + 2)).environment.stack }
          journal := t.journal } ∧
        r.refresh.runOn (r.sessionAfter s (n + 1)) =
          (((r.announce []).runOn t).1, setRefreshing false ((r.announce []).runOn t).2) ∧
        (∀ failure,
          ((Act.publishIf r.publishes (.environmentChange [])).runOn t).1 = .error failure →
            failure.isOrdinary = false) ∧
        ∀ u, (Act.publishIf r.publishes (.environmentChange [])).runOn t = (.ok (), u) →
          (r.scope.refreshAll.runOn u).1 = .ok () →
            (r.refresh.runOn (r.sessionAfter s (n + 1))).1 = .ok [] := by
  constructor
  · intro rules live incoming
    obtain ⟨merged, report, hmerge, -⟩ := exists_merged rules live incoming
    obtain ⟨again, hagain, hlayers⟩ := exists_merged_again hmerge
    exact ⟨merged, report, again, hmerge, hagain, hlayers⟩
  · intro r s fresh h n
    refine ⟨h.merges n, h.layers_eq n, ?_⟩
    obtain ⟨hidle, hlayers⟩ := h.layers_sessionAfter (n + 1)
    obtain ⟨old, hold, hself⟩ := h.exists_snapshot hlayers
    obtain ⟨report, hmerge⟩ := h.merges (n + 1)
    obtain ⟨attempt, result, bootstrapped, hboot, rfl, hstack⟩ := h.bootstraps (n + 1)
    obtain ⟨t, ht, hrun⟩ :=
      exists_runOn_refresh_unchanged hboot hidle hold hself (hstack ▸ hmerge) (h.layers_eq n)
    refine ⟨attempt, result, bootstrapped, t, hboot, ht, hrun, Act.failsOnly_publishIf _ _ t, ?_⟩
    intro u hpublish hscope
    rw [hrun]
    exact outcome_announce hpublish hscope

/-! ## An example -/

/-- The example with a scope that is told, and without a publisher. -/
def quietRefresher (fresh : LayerStack) : Refresher :=
  { exampleRefresher fresh with publishes := false }

/-- The first refresh changes keys; the ones after it do not. -/
theorem refresh_settles_example :
    ∃ live fresh,
      live.layers = exampleLive ∧ fresh.layers = exampleFresh ∧
      (quietRefresher fresh).Steady (exampleSession live) exampleFresh ∧
      ∀ n, ((quietRefresher fresh).refresh.runOn
        ((quietRefresher fresh).sessionAfter (exampleSession live) (n + 1))).1 = .ok [] := by
  have hdistinct : (exampleLive.map Layer.name).Nodup ∧ (exampleFresh.map Layer.name).Nodup := by
    decide
  obtain ⟨live, -, hlive⟩ := LayerStack.exists_ofList hdistinct.1
  obtain ⟨fresh, -, hfresh⟩ := LayerStack.exists_ofList hdistinct.2
  have hfreshLayers : freshLayers ⟨⟨fresh, [], []⟩, some 1⟩ = exampleFresh := by
    unfold freshLayers
    rw [hfresh]
    rfl
  have htame : (exampleAttempt fresh).tracking.handles.Tame := by
    show exampleHandles.Tame
    decide
  have hreleased := (Attempt.released_release htame).interruption_eq
  have hsteady : (quietRefresher fresh).Steady (exampleSession live) exampleFresh := by
    refine ⟨rfl, fun n => ?_, ?_, ?_⟩
    · exact ⟨exampleAttempt fresh, _, _, ⟨rfl, rfl, hreleased⟩, hfreshLayers, rfl⟩
    · show ∀ layer ∈ Layer.outside [⟨[.char 's']⟩] (live.layers ++ _), _
      rw [hlive]
      decide
    · show ∀ e ∈ Layer.entriesIn (Layer.pruneTops [⟨[.char 's']⟩] (live.layers ++ _)), _
      rw [hlive]
      have hletters (es : List (Char × Char)) :
          ∀ e ∈ es.map fun e => (letter e.1, letter e.2),
            (e.1 == e.1) = true ∧ e.2.equal? e.2 = .ok true := by
        intro e he
        obtain ⟨p, -, rfl⟩ := List.mem_map.mp he
        have hself (c : Char) : (letter c == letter c) = true := by simp [letter]
        exact ⟨hself p.1, (equal?_letter p.2 p.2).trans (congrArg Except.ok (hself p.2))⟩
      exact hletters [('x', '1'), ('y', '2'), ('x', '3'), ('y', '2'), ('n', '4')]
  refine ⟨live, fresh, hlive, hfresh, hsteady, fun n => ?_⟩
  obtain ⟨-, -, attempt, result, bootstrapped, t, -, -, -, -, hreturn⟩ :=
    refresh_settles.2 (quietRefresher fresh) (exampleSession live) exampleFresh hsteady n
  exact hreturn t rfl rfl

end Refresher

end LiveConfig
