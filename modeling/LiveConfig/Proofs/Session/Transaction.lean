import LiveConfig.Proofs.Session.Settle

/-!
# Refreshes that cannot compare

A refresh merges before it compares, and nothing takes a merge back.  If the comparison of an old
with a new value fails, the refresh ends there: no key is published and no instance discarded, but
the merged layers are live.  Such a refresh is a transaction only if there was nothing to merge.

**Result.**
* `Refresher.refresh_transactional_iff`: what a refresh leaves behind whose snapshots cannot be
  compared, and when this is what it found.
* `Refresher.refresh_not_transactional`: a key that changes without being reported, beside one that
  cannot be compared.
-/

namespace LiveConfig

namespace Refresher

variable {r : Refresher} {s t : Session} {attempt : Attempt} {result : BootstrapResult}
variable {bootstrapped : Session} {old new : Entries} {failure : Failure}

/--
A refresh that bootstraps, merges and releases, takes both snapshots, and then fails to compare
them.
-/
structure Incomparable (r : Refresher) (s : Session) (attempt : Attempt) (result : BootstrapResult)
    (bootstrapped : Session) (old new : Entries) (failure : Failure) : Prop where
  idle : s.refreshing = false
  bootstraps : r.Bootstraps s attempt result bootstrapped
  stack_eq : bootstrapped.environment.stack = s.environment.stack
  old_eq : (extract r.rules.standard s.environment.stack.layers).outcome = .ok old
  new_eq : ∀ merged report,
    (merge r.rules s.environment.stack (freshLayers result)).outcome = .ok (merged, report) →
      (extract r.rules.standard merged.layers).outcome = .ok new
  changes_eq : changes old new = .error failure

/-- A comparison that fails is the end: neither listeners nor the scope hear of it. -/
theorem exists_runOn_reportSince_incomparable
    (hnew : (extract r.rules.standard t.environment.stack.layers).outcome = .ok new)
    (hchanges : changes old new = .error failure) :
    ∃ journal, journal.notes = t.journal.notes ∧
      (r.reportSince old).runOn t = (.error failure, { t with journal := journal }) := by
  refine ⟨t.journal.addRecords (extract r.rules.standard t.environment.stack.layers).log, rfl, ?_⟩
  unfold reportSince
  rw [Act.runOn_bind, runOn_snapshot, hnew]
  simp only [Act.runOn_bind, Act.runOn_ofExcept, hchanges]

namespace Incomparable

/-- The refresh ends with the failure of the comparison, in the session with the merged layers. -/
theorem exists_runOn_refresh (h : r.Incomparable s attempt result bootstrapped old new failure) :
    ∃ merged report t,
      (merge r.rules s.environment.stack (freshLayers result)).outcome = .ok (merged, report) ∧
      t = { bootstrapped with
        environment := { bootstrapped.environment with stack := merged }
        journal := t.journal } ∧
      t.journal.notes = bootstrapped.journal.notes ++ attempt.release.1.journal.notes ∧
      r.refresh.runOn s = (.error failure, setRefreshing false t) := by
  obtain ⟨merged, report, hmerge, -⟩ :=
    exists_merged r.rules s.environment.stack (freshLayers result)
  obtain ⟨t, ht, hnotes, hrun⟩ :=
    exists_runOn_refresh_merged h.bootstraps h.idle h.old_eq (h.stack_eq ▸ hmerge)
  have hlive : t.environment.stack = merged := congrArg (fun u => u.environment.stack) ht
  have hnew : (extract r.rules.standard t.environment.stack.layers).outcome = .ok new :=
    hlive ▸ h.new_eq merged report hmerge
  obtain ⟨journal, hjournal, hreport⟩ := exists_runOn_reportSince_incomparable hnew h.changes_eq
  rw [hreport] at hrun
  have hsession : { t with journal := journal } = { bootstrapped with
      environment := { bootstrapped.environment with stack := merged }
      journal := journal } :=
    congrArg (fun u => { u with journal := journal }) ht
  exact ⟨merged, report, { t with journal := journal }, hmerge, hsession, hjournal.trans hnotes,
    hrun⟩

/-- The merged layers are live afterwards. -/
theorem exists_merged_live (h : r.Incomparable s attempt result bootstrapped old new failure) :
    ∃ merged report,
      (merge r.rules s.environment.stack (freshLayers result)).outcome = .ok (merged, report) ∧
      (r.refresh.runOn s).2.environment.stack = merged := by
  obtain ⟨merged, report, t, hmerge, ht, -, hrun⟩ := h.exists_runOn_refresh
  refine ⟨merged, report, hmerge, ?_⟩
  rw [hrun]
  exact congrArg (fun u => u.environment.stack) ht

end Incomparable

/--
**A refresh that cannot compare keeps what it has merged.**  The comparison fails ordinarily, at a
key that both snapshots have, and the refresh fails with it.  It leaves the session of the bootstrap
with the merged layers and with what the release noted; nothing is published, and no instance
discarded.  The live layers are those from before if and only if the merge had nothing to do: every
name that came in and is not standard was live with the layer that came in last under it.
-/
theorem refresh_transactional_iff
    (r : Refresher) (s : Session) (attempt : Attempt) (result : BootstrapResult)
    (bootstrapped : Session) (old new : Entries) (failure : Failure)
    (h : r.Incomparable s attempt result bootstrapped old new failure) :
    (∃ e ∈ old.entries, ∃ v, new.get? e.1 = some v ∧ differ? e.2 v = .error failure) ∧
    failure.isOrdinary = true ∧
    (∃ merged report t,
      (merge r.rules s.environment.stack (freshLayers result)).outcome = .ok (merged, report) ∧
      t = { bootstrapped with
        environment := { bootstrapped.environment with stack := merged }
        journal := t.journal } ∧
      t.journal.notes = bootstrapped.journal.notes ++ attempt.release.1.journal.notes ∧
      r.refresh.runOn s = (.error failure, setRefreshing false t)) ∧
    ((r.refresh.runOn s).2.environment.stack.layers = s.environment.stack.layers ↔
      ∀ name layer, r.rules.standard.contains name = false →
        latest? name (freshLayers result) = some layer →
          s.environment.stack.get? name = some layer) := by
  obtain ⟨e, he, v, hv, hfails⟩ := exists_incomparable h.changes_eq
  obtain ⟨merged, report, hmerge, hlive⟩ := h.exists_merged_live
  refine ⟨⟨e, he, v, hv, hfails⟩, isOrdinary_of_differ? hfails, h.exists_runOn_refresh, ?_⟩
  rw [hlive]
  exact layers_merge_eq_iff hmerge

/-! ## An example -/

/-- A value that refuses to be compared. -/
def refusing : Value :=
  .flawed ⟨[.char 'e']⟩ 0

/-- A layer with a value under one key and a letter under another. -/
def refusingLayer (v : Value) (c : Char) : Layer :=
  .ofEntries ⟨[.char 'a']⟩ (Table.ofList [(letter 'k', v), (letter 'x', letter c)])

theorem differ?_refusing
    {v : Value} (hnull : v ≠ .null)
    (h : Value.refusal? v refusing = some (.flawed ⟨[.char 'e']⟩)) :
    differ? v refusing = .error (.incomparable ⟨[.char 'e']⟩) := by
  obtain ⟨agree, hagree⟩ := Value.exists_equal?_eq v refusing
  have hequal : v.equal? refusing = .error (.flawed ⟨[.char 'e']⟩) := by
    rw [hagree]
    unfold Value.valuesAgree
    rw [h]
  unfold differ?
  split
  · exact absurd rfl hnull
  · exact absurd rfl hnull
  · contradiction
  · rw [hequal]

theorem freshLayers_refusing
    {fresh : LayerStack} {d : Char} (hfresh : fresh.layers = [refusingLayer refusing d]) :
    freshLayers ⟨⟨fresh, [], []⟩, some 1⟩ = [refusingLayer refusing d] := by
  unfold freshLayers
  rw [hfresh]
  rfl

theorem incomparable_refusing
    {live fresh : LayerStack} {v : Value} {c d : Char}
    (hlive : live.layers = [refusingLayer v c]) (hfresh : fresh.layers = [refusingLayer refusing d])
    (hdiffer : differ? v refusing = .error (.incomparable ⟨[.char 'e']⟩)) :
    (exampleRefresher fresh).Incomparable (exampleSession live) (exampleAttempt fresh)
      ⟨⟨fresh, [], []⟩, some 1⟩
      ((exampleRefresher fresh).snapshot.runOn (setRefreshing true (exampleSession live))).2
      (Table.ofList [(letter 'k', v), (letter 'x', letter c)])
      (Table.ofList [(letter 'k', refusing), (letter 'x', letter d)])
      (.incomparable ⟨[.char 'e']⟩) := by
  have htame : (exampleAttempt fresh).tracking.handles.Tame := by
    show exampleHandles.Tame
    decide
  have hreleased := (Attempt.released_release htame).interruption_eq
  refine ⟨rfl, ⟨rfl, rfl, hreleased⟩, rfl, ?old, ?new, ?changes⟩
  case old =>
    show (extract _ live.layers).outcome = _
    rw [hlive]
    rfl
  case new =>
    intro merged report hmerge
    rw [freshLayers_refusing hfresh] at hmerge
    rw [layers_merge_single hmerge hlive rfl rfl]
    rfl
  case changes =>
    show (changedEntries _ [(letter 'k', v), (letter 'x', letter c)] >>= _) = _
    have hget : (Table.ofList [(letter 'k', refusing), (letter 'x', letter d)]).get? (letter 'k') =
        some refusing := rfl
    rw [changedEntries, hget]
    simp only [hdiffer]
    rfl

/--
A refresh that cannot compare a value with itself leaves all as it is, if nothing else came in.
-/
theorem refresh_transactional_iff_example :
    ∃ live fresh : LayerStack,
      live.layers = [refusingLayer refusing '1'] ∧ fresh.layers = [refusingLayer refusing '1'] ∧
      ((exampleRefresher fresh).refresh.runOn (exampleSession live)).1 =
        .error (.incomparable ⟨[.char 'e']⟩) ∧
      ((exampleRefresher fresh).refresh.runOn (exampleSession live)).2.environment.stack.layers =
        live.layers := by
  have hdistinct : ([refusingLayer refusing '1'].map Layer.name).Nodup := by decide
  obtain ⟨live, -, hlive⟩ := LayerStack.exists_ofList hdistinct
  have hdiffer := differ?_refusing (v := refusing) (by rintro ⟨⟩) rfl
  obtain ⟨-, -, ⟨merged, report, t, -, -, -, hrun⟩, hlayers⟩ :=
    refresh_transactional_iff _ _ _ _ _ _ _ _ (incomparable_refusing hlive hlive hdiffer)
  refine ⟨live, live, hlive, hlive, congrArg Prod.fst hrun, hlayers.mpr ?_⟩
  intro name layer _ hlatest
  have hmem : layer ∈ freshLayers ⟨⟨live, [], []⟩, some 1⟩ :=
    List.mem_reverse.mp (List.mem_of_find?_eq_some hlatest)
  have hname : layer.name = name := by simpa using List.find?_some hlatest
  exact LayerStack.get?_eq_some_iff.mpr ⟨(List.mem_filter.mp hmem).1, hname⟩

/--
A refresh is no transaction: a key that has changed beside one that cannot be compared is live with
its new value, and the refresh fails without having reported it.
-/
theorem refresh_not_transactional :
    ∃ live fresh : LayerStack,
      live.layers = [refusingLayer (letter '1') '1'] ∧ fresh.layers = [refusingLayer refusing '2'] ∧
      ((exampleRefresher fresh).refresh.runOn (exampleSession live)).1 =
        .error (.incomparable ⟨[.char 'e']⟩) ∧
      (Failure.incomparable ⟨[.char 'e']⟩).isOrdinary = true ∧
      Layer.findIn? (letter 'x') live.layers = .ok (some (letter '1')) ∧
      Layer.findIn? (letter 'x')
          ((exampleRefresher fresh).refresh.runOn (exampleSession live)).2.environment.stack.layers =
        .ok (some (letter '2')) := by
  have hdistinct : ([refusingLayer (letter '1') '1'].map Layer.name).Nodup ∧
      ([refusingLayer refusing '2'].map Layer.name).Nodup := by decide
  obtain ⟨live, -, hlive⟩ := LayerStack.exists_ofList hdistinct.1
  obtain ⟨fresh, -, hfresh⟩ := LayerStack.exists_ofList hdistinct.2
  have hdiffer := differ?_refusing (v := letter '1') (by rintro ⟨⟩) rfl
  have h := incomparable_refusing hlive hfresh hdiffer
  obtain ⟨_, _, _, -, -, -, hrun⟩ := h.exists_runOn_refresh
  obtain ⟨merged, report, hmerge, hmerged⟩ := h.exists_merged_live
  rw [freshLayers_refusing hfresh] at hmerge
  refine ⟨live, fresh, hlive, hfresh, congrArg Prod.fst hrun, rfl, ?_, ?_⟩
  · rw [hlive]
    rfl
  · rw [hmerged, layers_merge_single hmerge hlive rfl rfl]
    rfl

end Refresher

end LiveConfig
