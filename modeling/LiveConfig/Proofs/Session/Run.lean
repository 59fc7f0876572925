import LiveConfig.Proofs.Session.Containment

/-!
# Runs of refreshes

Between two refreshes the live layers stay as they are, so the snapshot that one refresh takes at
its end is the one that the next takes at its start.  A refresh either leaves the live layers alone,
or it has merged and goes on to compare.  A difference between the two ends of a run is therefore
one between the two ends of some refresh in it, which has reported it.

A snapshot can be interrupted by a layer.  If the second snapshot of a refresh is, so is every later
one, since no refresh gets past its first snapshot any more; the run has no snapshot at its end.

**Results.**
* `RefreshCall.layers_or_merged`: what one refresh of a run does.
* `Runs.interrupted`: a run from layers without a snapshot ends with such layers.
* `runs_report_changes`: no change is lost over a run.
* `interrupted_refresh_returns_nothing`: a listener that interrupts keeps a refresh from returning
  what it has published.
-/

namespace LiveConfig

namespace Refresher

/-- A refresh in a session, with a bootstrapper of its own. -/
structure RefreshCall where
  session : Session
  bootstrapper : Bootstrapper

namespace RefreshCall

/-- The refresher of a call. -/
def refresher (c : RefreshCall) (r : Refresher) : Refresher :=
  { r with bootstrapper := c.bootstrapper }

/-- What a call comes to. -/
def run (c : RefreshCall) (r : Refresher) : Except Failure (List Value) × Session :=
  (c.refresher r).refresh.runOn c.session

/--
The bootstrap of a call gives any layers or fails, but leaves the live layers alone, and its close
callbacks fail ordinarily at most.
-/
def Proper (c : RefreshCall) (r : Refresher) : Prop :=
  ∃ attempt bootstrapped,
    (c.refresher r).Attempts c.session attempt bootstrapped ∧
      bootstrapped.environment.stack = c.session.environment.stack

/--
A session is the one that the bootstrap of a call left, but for the live layers and the journal.
-/
def Loads (c : RefreshCall) (r : Refresher) (t : Session) : Prop :=
  ∃ attempt bootstrapped merged,
    (c.refresher r).Attempts c.session attempt bootstrapped ∧
      t = { bootstrapped with
        environment := { bootstrapped.environment with stack := merged }
        journal := t.journal }

/--
A call has merged what its bootstrap built and found out which keys changed.  It publishes them,
tells the scope, and returns them, unless a listener interrupts or the scope fails.
-/
structure Reports (c : RefreshCall) (r : Refresher) (keys : List Value) (t : Session) : Prop where
  loads : c.Loads r t
  run_eq :
    c.run r = (((r.announce keys).runOn t).1, setRefreshing false ((r.announce keys).runOn t).2)
  interrupted : ∀ failure,
    ((Act.publishIf r.publishes (.environmentChange keys)).runOn t).1 = .error failure →
      failure.isOrdinary = false
  returned : ∀ u, (Act.publishIf r.publishes (.environmentChange keys)).runOn t = (.ok (), u) →
    (r.scope.refreshAll.runOn u).1 = .ok () → (c.run r).1 = .ok keys

end RefreshCall

/--
A run of refreshes from a session to another one.  Between the calls anything may happen that leaves
the live layers as they are.
-/
inductive Runs (r : Refresher) : Session → List RefreshCall → Session → Prop
  | done {s t : Session} (same : t.environment.stack.layers = s.environment.stack.layers) :
    Runs r s [] t
  | call {s t : Session} {c : RefreshCall} {calls : List RefreshCall}
    (same : c.session.environment.stack.layers = s.environment.stack.layers) (proper : c.Proper r)
    (rest : Runs r (c.run r).2 calls t) : Runs r s (c :: calls) t

/-- A value is in the snapshot of a session. -/
def Shows (r : Refresher) (s : Session) (v : Value) : Prop :=
  ∃ snapshot key,
    (extract r.rules.standard s.environment.stack.layers).outcome = .ok snapshot ∧
      snapshot.get? key = some v

/-- A value is in the snapshot at the start of a run or after one of its calls. -/
def Involved (r : Refresher) (s : Session) (calls : List RefreshCall) (v : Value) : Prop :=
  r.Shows s v ∨ ∃ c ∈ calls, r.Shows (c.run r).2 v

variable {r : Refresher} {s t : Session} {c : RefreshCall} {calls : List RefreshCall}
variable {old new : Entries} {key : Value}

/-! ## One refresh -/

/-- Once a refresh has compared its snapshots, all that is left is to announce the changed keys. -/
theorem exists_runOn_reportSince
    {changed : Entries}
    (hnew : (extract r.rules.standard t.environment.stack.layers).outcome = .ok new)
    (hchanges : changes old new = .ok changed) :
    ∃ journal, (r.reportSince old).runOn t =
      (r.announce changed.keys).runOn { t with journal := journal } := by
  have hcompared : (r.reportSince old).runOn t =
      (Act.record .info .refreshing (refreshedText changed.keys.length) >>= fun _ =>
        r.announce changed.keys).runOn (r.snapshot.runOn t).2 := by
    unfold reportSince
    rw [Act.runOn_bind, runOn_snapshot, hnew]
    simp only [Act.runOn_bind, Act.runOn_ofExcept, hchanges]
  rw [runOn_snapshot, Act.runOn_bind, Act.runOn_record] at hcompared
  exact ⟨_, hcompared⟩

/-- A refresh leaves the live layers alone, or it has merged and goes on to compare. -/
theorem RefreshCall.layers_or_merged (h : c.Proper r) :
    (c.run r).2.environment.stack.layers = c.session.environment.stack.layers ∨
      ∃ old t,
        (extract r.rules.standard c.session.environment.stack.layers).outcome = .ok old ∧
        (c.run r).2.environment = t.environment ∧
        c.Loads r t ∧
        c.run r =
          (((r.reportSince old).runOn t).1,
            setRefreshing false ((r.reportSince old).runOn t).2) := by
  obtain ⟨attempt, bootstrapped, hattempt, hstack⟩ := h
  cases hidle : c.session.refreshing with
  | true =>
    refine Or.inl ?_
    rw [run, runOn_refresh_of_refreshing _ hidle]
  | false =>
    cases hold : (extract r.rules.standard c.session.environment.stack.layers).outcome with
    | error failure =>
      refine Or.inl ?_
      rw [run, runOn_refresh_of_interrupted (r := c.refresher r) hidle hold]
      rfl
    | ok old =>
      cases houtcome : attempt.outcome with
      | error failure =>
        refine Or.inl ?_
        rw [run, runOn_refresh_of_error (r := c.refresher r) hidle hold hattempt houtcome]
        exact congrArg LayerStack.layers hstack
      | ok result =>
        obtain ⟨merged, report, hmerge, -⟩ :=
          exists_merged r.rules bootstrapped.environment.stack (freshLayers result)
        have hboots : (c.refresher r).Bootstraps c.session attempt result bootstrapped :=
          ⟨hattempt.bootstrapper_eq, houtcome, hattempt.released⟩
        obtain ⟨t, ht, -, hrun⟩ := exists_runOn_refresh_merged hboots hidle hold hmerge
        refine Or.inr ⟨old, t, rfl, ?_, ⟨attempt, bootstrapped, merged, hattempt, ht⟩, hrun⟩
        rw [run, hrun]
        exact (keeps_reportSince (c.refresher r) old).environment t

theorem RefreshCall.Loads.journal (h : c.Loads r t) (journal : Journal) :
    c.Loads r { t with journal := journal } := by
  obtain ⟨attempt, bootstrapped, merged, hattempt, ht⟩ := h
  exact ⟨attempt, bootstrapped, merged, hattempt,
    congrArg (fun u => { u with journal := journal }) ht⟩

/-- A refresh that has both snapshots reports the keys under which they differ. -/
theorem RefreshCall.exists_reports
    (h : c.Proper r)
    (hold : (extract r.rules.standard c.session.environment.stack.layers).outcome = .ok old)
    (hnew : (extract r.rules.standard (c.run r).2.environment.stack.layers).outcome = .ok new)
    (hcomparable : ∀ key u v, old.get? key = some u → new.get? key = some v → u.Comparable v) :
    (c.run r).2.environment.stack.layers = c.session.environment.stack.layers ∨
      ∃ keys t, c.Reports r keys t ∧
        ∀ key, keys.any (· == key) = true ↔ Differ (old.get? key) (new.get? key) := by
  rcases layers_or_merged h with hsame | ⟨old', t, hold', henvironment, hloads, hrun⟩
  · exact Or.inl hsame
  · obtain rfl : old = old' := Except.ok.inj (hold.symm.trans hold')
    rw [henvironment] at hnew
    obtain ⟨changed, hchanges, hiff⟩ := exists_changes hcomparable
    obtain ⟨journal, hreport⟩ := exists_runOn_reportSince hnew hchanges
    rw [hreport] at hrun
    refine Or.inr ⟨changed.keys, { t with journal := journal },
      ⟨hloads.journal journal, hrun, Act.failsOnly_publishIf _ _ _, ?_⟩, fun key => ?_⟩
    · intro u hpublish hscope
      rw [hrun]
      exact outcome_announce hpublish hscope
    · rw [← Table.contains_eq_any_keys, hiff]

/-! ## Runs -/

/-- Where there is no snapshot, no refresh gets on, and there is none at the end either. -/
theorem Runs.interrupted
    (h : r.Runs s calls t) {failure : Failure}
    (hs : (extract r.rules.standard s.environment.stack.layers).outcome = .error failure) :
    (extract r.rules.standard t.environment.stack.layers).outcome = .error failure := by
  induction h with
  | done same => rw [same, hs]
  | call same proper rest ih =>
    rcases RefreshCall.layers_or_merged proper with hsame | ⟨old, t, hold, -⟩
    · exact ih (by rw [hsame, same, hs])
    · rw [same, hs] at hold
      cases hold

/-- What is shown at the start of the rest of a run is involved in all of it. -/
theorem Involved.of_rest
    {v : Value} (h : r.Involved (c.run r).2 calls v) : r.Involved s (c :: calls) v := by
  rcases h with hstart | ⟨d, hd, hshows⟩
  · exact Or.inr ⟨c, List.mem_cons_self, hstart⟩
  · exact Or.inr ⟨d, List.mem_cons_of_mem _ hd, hshows⟩

/-- What is shown at the end of a run is involved in it. -/
theorem Runs.involved_end
    (h : r.Runs s calls t) {v : Value} (hv : r.Shows t v) : r.Involved s calls v := by
  induction h with
  | done same =>
    obtain ⟨snapshot, key, hsnapshot, hget⟩ := hv
    exact Or.inl ⟨snapshot, key, same ▸ hsnapshot, hget⟩
  | call same proper rest ih => exact (ih hv).of_rest

/--
**No change is lost over a run of refreshes.**  Some refreshes of the run may fail to bootstrap, and
may do so with an interruption.  A key under which the snapshots at the two ends differ, and not by
an unequal value that is one and the same, is among the keys that some refresh of the run has found
changed.  That refresh publishes these keys in its event, which nothing but an interruption by a
listener keeps from going on, and returns them if no listener interrupts and the scope does not
fail.
-/
theorem runs_report_changes
    (r : Refresher) (s t : Session) (calls : List RefreshCall) (old new : Entries) (key : Value)
    (hruns : r.Runs s calls t) (hcompare : Value.ComparesWell (r.Involved s calls))
    (hold : (extract r.rules.standard s.environment.stack.layers).outcome = .ok old)
    (hnew : (extract r.rules.standard t.environment.stack.layers).outcome = .ok new)
    (hdiffer : Differ (old.get? key) (new.get? key)) (hne : old.get? key ≠ new.get? key) :
    ∃ c ∈ calls, ∃ keys u, c.Reports r keys u ∧ keys.any (· == key) = true := by
  induction hruns generalizing old with
  | done same =>
    rw [same, hold] at hnew
    exact absurd (congrArg (·.get? key) (Except.ok.inj hnew)) hne
  | @call s t c calls same proper rest ih =>
    have hrest : Value.ComparesWell (r.Involved (c.run r).2 calls) :=
      hcompare.mono fun v hv => hv.of_rest
    cases hmid : (extract r.rules.standard (c.run r).2.environment.stack.layers).outcome with
    | error failure =>
      rw [rest.interrupted hmid] at hnew
      cases hnew
    | ok mid =>
      -- the values of the three snapshots are among those of the run
      have hold' (k u) (hu : old.get? k = some u) : r.Involved s (c :: calls) u :=
        Or.inl ⟨old, k, hold, hu⟩
      have hmid' (k u) (hu : mid.get? k = some u) : r.Involved s (c :: calls) u :=
        Or.inr ⟨c, List.mem_cons_self, mid, k, hmid, hu⟩
      have hnew' (k u) (hu : new.get? k = some u) : r.Involved s (c :: calls) u :=
        (rest.involved_end ⟨new, k, hnew, hu⟩).of_rest
      have hcomparable (k u v) (hu : old.get? k = some u) (hv : mid.get? k = some v) :
          u.Comparable v := hcompare.comparable u v (hold' k u hu) (hmid' k v hv)
      have hafter (h : Differ (mid.get? key) (new.get? key)) (hne : mid.get? key ≠ new.get? key) :
          ∃ d ∈ c :: calls, ∃ keys u, d.Reports r keys u ∧ keys.any (· == key) = true := by
        obtain ⟨d, hd, hreports⟩ := ih mid hrest hmid hnew h hne
        exact ⟨d, List.mem_cons_of_mem _ hd, hreports⟩
      rcases RefreshCall.exists_reports proper (same ▸ hold) hmid hcomparable with
        hsame | ⟨keys, u, hreports, hkeys⟩
      · rw [hsame, same, hold] at hmid
        obtain rfl := Except.ok.inj hmid
        exact hafter hdiffer hne
      · rcases differ_or_differ hcompare (hold' key) (hmid' key) (hnew' key) hdiffer hne with
          hfirst | ⟨hlater, hne'⟩
        · exact ⟨c, List.mem_cons_self, keys, u, hreports, (hkeys key).mpr hfirst⟩
        · exact hafter hlater hne'

/-! ## An example -/

/-- The only layer of the example, with a letter under one key. -/
def onlyLayer (c : Char) : Layer :=
  letterLayer 'a' [('x', c)]

theorem exists_onlyStack (c : Char) : ∃ stack : LayerStack, stack.layers = [onlyLayer c] := by
  have hdistinct : ([onlyLayer c].map Layer.name).Nodup := List.nodup_singleton _
  obtain ⟨stack, -, hlayers⟩ := LayerStack.exists_ofList hdistinct
  exact ⟨stack, hlayers⟩

/-- What the only layer shows. -/
def onlyEntry (c : Char) : Entries :=
  Table.ofList [(letter 'x', letter c)]

theorem comparesWell_letters : Value.ComparesWell fun v => ∃ c, v = letter c where
  comparable := by
    rintro u v ⟨c, rfl⟩ ⟨d, rfl⟩
    exact ⟨_, equal?_letter c d⟩
  transitive := by
    rintro u v w ⟨c, rfl⟩ ⟨d, rfl⟩ ⟨e, rfl⟩ hcd hde
    rw [equal?_letter] at hcd hde ⊢
    exact congrArg Except.ok (BEq.trans (Except.ok.inj hcd) (Except.ok.inj hde))

theorem extract_onlyLayer
    (fresh : LayerStack) {a : Char} (hs : s.environment.stack.layers = [onlyLayer a]) :
    (extract (exampleRefresher fresh).rules.standard s.environment.stack.layers).outcome =
      .ok (onlyEntry a) := by
  rw [hs]
  rfl

theorem eq_letter_of_shows
    {fresh : LayerStack} {a : Char} {v : Value} (hs : s.environment.stack.layers = [onlyLayer a])
    (h : (exampleRefresher fresh).Shows s v) : ∃ c, v = letter c := by
  obtain ⟨snapshot, key, hsnapshot, hget⟩ := h
  rw [extract_onlyLayer fresh hs] at hsnapshot
  obtain rfl := Except.ok.inj hsnapshot
  obtain ⟨k, hmem, -⟩ := Table.get?_eq_some_iff.mp hget
  obtain ⟨-, rfl⟩ := Prod.mk.inj (List.mem_singleton.mp hmem)
  exact ⟨a, rfl⟩

/-- A refresh of the only layer. -/
def onlyCall (s : Session) (fresh : LayerStack) : RefreshCall :=
  ⟨s, fun _ s => (exampleAttempt fresh, s)⟩

theorem proper_onlyCall (s : Session) (fresh : LayerStack) :
    (onlyCall s fresh).Proper (exampleRefresher fresh) := by
  have htame : exampleHandles.Tame := by decide
  exact ⟨exampleAttempt fresh, _, ⟨rfl, htame⟩, rfl⟩

/-- The fresh layer takes the place of the live one, and then the two snapshots are compared. -/
theorem exists_run_onlyCall
    {fresh : LayerStack} {a b : Char} (hidle : s.refreshing = false)
    (hs : s.environment.stack.layers = [onlyLayer a]) (hfresh : fresh.layers = [onlyLayer b]) :
    ∃ t,
      t.publisher = s.publisher ∧ t.listeners = s.listeners ∧
      t.environment.stack.layers = [onlyLayer b] ∧
      (onlyCall s fresh).run (exampleRefresher fresh) =
        ((((exampleRefresher fresh).reportSince (onlyEntry a)).runOn t).1,
          setRefreshing false
            (((exampleRefresher fresh).reportSince (onlyEntry a)).runOn t).2) := by
  have htame : (exampleAttempt fresh).tracking.handles.Tame := by
    show exampleHandles.Tame
    decide
  have hboots : (exampleRefresher fresh).Bootstraps s (exampleAttempt fresh)
      ⟨⟨fresh, [], []⟩, some 1⟩
      ((exampleRefresher fresh).snapshot.runOn (setRefreshing true s)).2 :=
    ⟨rfl, rfl, (Attempt.released_release htame).interruption_eq⟩
  have hfreshLayers : freshLayers ⟨⟨fresh, [], []⟩, some 1⟩ = [onlyLayer b] := by
    unfold freshLayers
    rw [hfresh]
    rfl
  obtain ⟨merged, report, hmerge, -⟩ :=
    exists_merged (exampleRefresher fresh).rules s.environment.stack
      (freshLayers ⟨⟨fresh, [], []⟩, some 1⟩)
  obtain ⟨t, ht, -, hrun⟩ :=
    exists_runOn_refresh_merged hboots hidle (extract_onlyLayer fresh hs) hmerge
  rw [hfreshLayers] at hmerge
  refine ⟨t, ?_, ?_, ?_, hrun⟩
  · rw [ht]
    rfl
  · rw [ht]
    rfl
  · rw [ht]
    exact layers_merge_single hmerge hs rfl rfl

theorem layers_onlyCall
    {fresh : LayerStack} {a b : Char} (hidle : s.refreshing = false)
    (hs : s.environment.stack.layers = [onlyLayer a]) (hfresh : fresh.layers = [onlyLayer b]) :
    ((onlyCall s fresh).run (exampleRefresher fresh)).2.environment.stack.layers =
      [onlyLayer b] := by
  obtain ⟨t, -, -, hlayers, hrun⟩ := exists_run_onlyCall hidle hs hfresh
  rw [hrun, ← hlayers]
  exact congrArg (fun e : Environment => e.stack.layers)
    ((keeps_reportSince (exampleRefresher fresh) (onlyEntry a)).environment t)

theorem differ_onlyEntry :
    Differ ((onlyEntry '1').get? (letter 'x')) ((onlyEntry '2').get? (letter 'x')) :=
  equal?_letter '1' '2'

theorem ne_onlyEntry :
    (onlyEntry '1').get? (letter 'x') ≠ (onlyEntry '2').get? (letter 'x') := by
  show some (letter '1') ≠ some (letter '2')
  simp [letter]

/-- A bootstrap that is interrupted, and then one that succeeds. -/
theorem runs_report_changes_example :
    ∃ (live fresh : LayerStack) (c d : RefreshCall),
      live.layers = [onlyLayer '1'] ∧ fresh.layers = [onlyLayer '2'] ∧
      c = ⟨exampleSession live, fun _ s => (interruptedAttempt, s)⟩ ∧
      (c.run (exampleRefresher fresh)).1 = .error (.raised .interrupt ⟨[.char 'e']⟩) ∧
      d = onlyCall (c.run (exampleRefresher fresh)).2 fresh ∧
      ∃ e ∈ [c, d], ∃ keys u, e.Reports (exampleRefresher fresh) keys u ∧
        keys.any (· == letter 'x') = true := by
  obtain ⟨live, hlive⟩ := exists_onlyStack '1'
  obtain ⟨fresh, hfresh⟩ := exists_onlyStack '2'
  let r := exampleRefresher fresh
  let c : RefreshCall := ⟨exampleSession live, fun _ s => (interruptedAttempt, s)⟩
  have htame : interruptedAttempt.tracking.handles.Tame := by
    show exampleHandles.Tame
    decide
  have hc := runOn_refresh_of_error (r := c.refresher r) (s := exampleSession live) rfl
    (extract_onlyLayer fresh hlive) ⟨rfl, htame⟩ rfl
  have hafter : (c.run r).2.environment.stack.layers = [onlyLayer '1'] := by
    show ((c.refresher r).refresh.runOn (exampleSession live)).2.environment.stack.layers = _
    rw [hc]
    exact hlive
  have hidle : (c.run r).2.refreshing = false := by
    show ((c.refresher r).refresh.runOn (exampleSession live)).2.refreshing = _
    rw [hc]
    rfl
  let d := onlyCall (c.run r).2 fresh
  have hend := layers_onlyCall hidle hafter hfresh
  have hruns : r.Runs (exampleSession live) [c, d] (d.run r).2 :=
    .call rfl ⟨interruptedAttempt, _, ⟨rfl, htame⟩, rfl⟩
      (.call rfl (proper_onlyCall _ fresh) (.done rfl))
  have hcompare : Value.ComparesWell (r.Involved (exampleSession live) [c, d]) := by
    refine comparesWell_letters.mono fun v hv => ?_
    rcases hv with hstart | ⟨e, he, hshows⟩
    · exact eq_letter_of_shows hlive hstart
    · rcases List.mem_pair.mp he with rfl | rfl
      · exact eq_letter_of_shows hafter hshows
      · exact eq_letter_of_shows hend hshows
  exact ⟨live, fresh, c, d, hlive, hfresh, rfl, congrArg Prod.fst hc, rfl,
    runs_report_changes r (exampleSession live) _ [c, d] (onlyEntry '1') (onlyEntry '2')
      (letter 'x') hruns hcompare (extract_onlyLayer fresh hlive) (extract_onlyLayer fresh hend)
      differ_onlyEntry ne_onlyEntry⟩

/-! ## A listener that interrupts -/

/-- The example with a listener that interrupts. -/
def interruptedSession (live : LayerStack) : Session :=
  { exampleSession live with
    listeners := Table.ofList
      [(⟨[.char 'l']⟩, [.fail (.raised .interrupt ⟨[.char 'e']⟩)])] }

theorem outcome_announce_interrupted
    (live fresh : LayerStack) (keys : List Value)
    (hpublisher : t.publisher = (interruptedSession live).publisher)
    (hlisteners : t.listeners = (interruptedSession live).listeners) :
    (((exampleRefresher fresh).announce keys).runOn t).1 =
      .error (.raised .interrupt ⟨[.char 'e']⟩) := by
  obtain ⟨environment, saved, publisher, listeners, scope, files, nextNan, refreshing, journal⟩ := t
  obtain rfl : publisher = _ := hpublisher
  obtain rfl : listeners = _ := hlisteners
  rfl

/-- A listener that interrupts keeps a refresh from returning the key that it has published. -/
theorem interrupted_refresh_returns_nothing :
    ∃ (live fresh : LayerStack) (s : Session) (c : RefreshCall),
      live.layers = [onlyLayer '1'] ∧ fresh.layers = [onlyLayer '2'] ∧
      s = interruptedSession live ∧
      c = onlyCall s fresh ∧
      (exampleRefresher fresh).Runs s [c] (c.run (exampleRefresher fresh)).2 ∧
      Value.ComparesWell ((exampleRefresher fresh).Involved s [c]) ∧
      (extract (exampleRefresher fresh).rules.standard s.environment.stack.layers).outcome =
        .ok (onlyEntry '1') ∧
      (extract (exampleRefresher fresh).rules.standard
          (c.run (exampleRefresher fresh)).2.environment.stack.layers).outcome =
        .ok (onlyEntry '2') ∧
      Differ ((onlyEntry '1').get? (letter 'x')) ((onlyEntry '2').get? (letter 'x')) ∧
      (c.run (exampleRefresher fresh)).1 = .error (.raised .interrupt ⟨[.char 'e']⟩) := by
  obtain ⟨live, hlive⟩ := exists_onlyStack '1'
  obtain ⟨fresh, hfresh⟩ := exists_onlyStack '2'
  let s := interruptedSession live
  have hs : s.environment.stack.layers = [onlyLayer '1'] := hlive
  have hend := layers_onlyCall (s := s) rfl hs hfresh
  obtain ⟨t, hpublisher, hlisteners, hlayers, hrun⟩ := exists_run_onlyCall (s := s) rfl hs hfresh
  have hruns : (exampleRefresher fresh).Runs s [onlyCall s fresh] _ :=
    .call rfl (proper_onlyCall s fresh) (.done rfl)
  have hcompare :
      Value.ComparesWell ((exampleRefresher fresh).Involved s [onlyCall s fresh]) := by
    refine comparesWell_letters.mono fun v hv => ?_
    rcases hv with hstart | ⟨c, hc, hshows⟩
    · exact eq_letter_of_shows hs hstart
    · obtain rfl := List.mem_singleton.mp hc
      exact eq_letter_of_shows hend hshows
  refine ⟨live, fresh, s, onlyCall s fresh, hlive, hfresh, rfl, rfl, hruns, hcompare,
    extract_onlyLayer fresh hs, extract_onlyLayer fresh hend, differ_onlyEntry, ?_⟩
  have hcomparable (key u v) (hu : (onlyEntry '1').get? key = some u)
      (hv : (onlyEntry '2').get? key = some v) : u.Comparable v :=
    hcompare.comparable u v (Or.inl ⟨_, key, extract_onlyLayer fresh hs, hu⟩)
      (Or.inr ⟨_, List.mem_singleton_self _, _, key, extract_onlyLayer fresh hend, hv⟩)
  obtain ⟨changed, hchanges, -⟩ := exists_changes hcomparable
  obtain ⟨journal, hreport⟩ :=
    exists_runOn_reportSince (extract_onlyLayer fresh hlayers) hchanges
  rw [hrun, hreport]
  exact outcome_announce_interrupted live fresh changed.keys hpublisher hlisteners

end Refresher

end LiveConfig
