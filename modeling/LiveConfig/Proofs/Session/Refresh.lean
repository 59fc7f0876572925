import LiveConfig.Proofs.ChangeSet
import LiveConfig.Proofs.Handle.Release
import LiveConfig.Proofs.Layer.Extract
import LiveConfig.Proofs.Layer.Lookup
import LiveConfig.Proofs.Session.Publish
import LiveConfig.Proofs.Session.Reload
import LiveConfig.Proofs.Stack.Placement

/-!
# What a refresh reports

A refresh compares two snapshots, which are written from the last layer to the first, while readers
look keys up from the first layer to the last.  Where all layers outside the standard ones can be
enumerated, the two agree, before and after the merge; so the reported keys are exactly those for
which readers find something else.

**Result.**
* `refresh_reports`: what an undisturbed refresh reports, leaves behind and publishes, and in which
  order.
-/

namespace LiveConfig

namespace Refresher

/-- What a refresh does when it knows the changed keys. -/
def announce (r : Refresher) (keys : List Value) : Act (List Value) := do
  Act.publishIf r.publishes (.environmentChange keys)
  r.scope.refreshAll
  return keys

/-- The layers that a refresh compares. -/
def compared (r : Refresher) (layers : List Layer) : List Layer :=
  Layer.outside r.rules.standard layers

/--
A refresh whose collaborators do what they should: the bootstrap succeeds and leaves the live layers
alone, no close callback is interrupted, and the layers and values that are compared can be.
-/
structure Undisturbed (r : Refresher) (s : Session) (attempt : Attempt)
    (result : BootstrapResult) (bootstrapped : Session) : Prop where
  idle : s.refreshing = false
  bootstrapper_eq :
    r.bootstrapper (BootstrapRequest.ofEnvironment s.environment refreshOverrides)
      (r.snapshot.runOn (setRefreshing true s)).2 = (attempt, bootstrapped)
  outcome_eq : attempt.outcome = .ok result
  stack_eq : bootstrapped.environment.stack = s.environment.stack
  tame : attempt.tracking.handles.Tame
  enumerable :
    ∀ layer ∈ r.compared (s.environment.stack.layers ++ freshLayers result),
      layer.everywhere Layer.isEnumerable = true
  comparable :
    ∀ e ∈ Layer.entriesIn (r.compared s.environment.stack.layers),
      ∀ f ∈ Layer.entriesIn
          (r.compared (s.environment.stack.layers ++ freshLayers result)),
        e.2.Comparable f.2

variable {r : Refresher} {s : Session} {attempt : Attempt} {result : BootstrapResult}
variable {bootstrapped : Session}

theorem keeps_refreshAll (scope : ScopeKind) :
    Act.Keeps Session.bare scope.refreshAll := by
  cases scope with
  | lazy publishes => exact Act.keeps_refreshInstances publishes
  | recording => exact Act.keeps_note _
  | failing failure => exact (Act.keeps_note _).bind fun _ => Act.keeps_throw failure

theorem keeps_announce (r : Refresher) (keys : List Value) :
    Act.Keeps Session.environment (r.announce keys) :=
  ((Act.keeps_publishIf _ _).bind fun _ => (keeps_refreshAll _).bind fun _ _ => rfl).environment

@[simp]
theorem journal_setRefreshing (b : Bool) (s : Session) :
    (setRefreshing b s).journal = s.journal := rfl

/-- If nothing fails, the changed keys are the outcome. -/
theorem outcome_announce
    {keys : List Value} {t u : Session}
    (hpublish : (Act.publishIf r.publishes (.environmentChange keys)).runOn t = (.ok (), u))
    (hscope : (r.scope.refreshAll.runOn u).1 = .ok ()) :
    ((r.announce keys).runOn t).1 = .ok keys := by
  unfold announce
  rw [Act.runOn_bind, hpublish]
  simp only [Act.runOn_bind]
  generalize r.scope.refreshAll.runOn u = result at hscope ⊢
  obtain ⟨outcome, v⟩ := result
  obtain rfl : outcome = .ok () := hscope
  rfl

/-- A refresh that starts while no other is under way is marked as one from start to end. -/
theorem runOn_refresh
    {x : Act (List Value)} {t : Session} (hidle : s.refreshing = false)
    (h : r.refreshNow.runOn (setRefreshing true s) = x.runOn t) :
    r.refresh.runOn s = ((x.runOn t).1, setRefreshing false (x.runOn t).2) := by
  unfold Act.runOn refresh at *
  rw [hidle, h]
  rfl

/-- Merged layers that are compared were compared before or are fresh. -/
theorem mem_compared_append
    {live incoming merged : List Layer}
    (h : ∀ layer ∈ merged, layer ∈ live ∨ layer ∈ incoming) {layer : Layer}
    (hlayer : layer ∈ r.compared merged) :
    layer ∈ r.compared (live ++ incoming) := by
  obtain ⟨hmem, hname⟩ := Layer.mem_outside.mp hlayer
  exact Layer.mem_outside.mpr ⟨List.mem_append.mpr (h layer hmem), hname⟩

/-- What is found under a key is the value of an entry of some layer. -/
theorem exists_entry_of_firstValue?
    {key v : Value} {layers : List Layer}
    (h : firstValue? key (Layer.entriesIn layers) = some v) :
    ∃ e ∈ Layer.entriesIn layers, e.2 = v := by
  obtain ⟨k, hmem, -⟩ := exists_mem_of_firstValue? h
  exact ⟨(k, v), hmem, rfl⟩

/-- Two lists of layers that can be enumerated and compared have a change set, seen by look-ups. -/
theorem exists_reported
    {before after : List Layer}
    (hbefore : ∀ layer ∈ r.compared before, layer.everywhere Layer.isEnumerable = true)
    (hafter : ∀ layer ∈ r.compared after, layer.everywhere Layer.isEnumerable = true)
    (hcomparable : ∀ e ∈ Layer.entriesIn (r.compared before),
      ∀ f ∈ Layer.entriesIn (r.compared after), e.2.Comparable f.2) :
    ∃ old new changed,
      (extract r.rules.standard before).outcome = .ok old ∧
      (extract r.rules.standard after).outcome = .ok new ∧
      changes old new = .ok changed ∧
      ∀ key a b, Layer.findIn? key (r.compared before) = .ok a →
        Layer.findIn? key (r.compared after) = .ok b →
        (changed.keys.any (· == key) = true ↔ Differ a b) := by
  obtain ⟨old, hold, hgetOld⟩ := extract_of_isEnumerable hbefore
  obtain ⟨new, hnew, hgetNew⟩ := extract_of_isEnumerable hafter
  have hvalues : ∀ key u v, old.get? key = some u → new.get? key = some v → u.Comparable v := by
    intro key u v hu hv
    obtain ⟨e, he, rfl⟩ := exists_entry_of_firstValue? ((hgetOld key).symm.trans hu)
    obtain ⟨f, hf, rfl⟩ := exists_entry_of_firstValue? ((hgetNew key).symm.trans hv)
    exact hcomparable e he f hf
  obtain ⟨changed, hchanges, hiff⟩ := exists_changes hvalues
  refine ⟨old, new, changed, hold, hnew, hchanges, fun key a b ha hb => ?_⟩
  have hfindOld := Layer.findIn?_eq_firstValue? (Layer.everywhereIn_iff.mpr hbefore) ha
  have hfindNew := Layer.findIn?_eq_firstValue? (Layer.everywhereIn_iff.mpr hafter) hb
  rw [← Table.contains_eq_any_keys, hiff, hgetOld, hgetNew]
  exact iff_of_eq (congrArg₂ Differ hfindOld hfindNew)

/-- Once a refresh has compared its snapshots, all that is left is to announce the changed keys. -/
theorem exists_runOn_refreshNow
    {merged : LayerStack} {report : MergeReport} {old new changed : Entries}
    (hold : (extract r.rules.standard s.environment.stack.layers).outcome = .ok old)
    (hbootstrap :
      r.bootstrapper (BootstrapRequest.ofEnvironment s.environment refreshOverrides)
        (r.snapshot.runOn s).2 = (attempt, bootstrapped))
    (houtcome : attempt.outcome = .ok result)
    (hmerge : (merge r.rules bootstrapped.environment.stack (freshLayers result)).outcome =
      .ok (merged, report))
    (hrelease : attempt.release.2 = none)
    (hnew : (extract r.rules.standard merged.layers).outcome = .ok new)
    (hchanges : changes old new = .ok changed) :
    ∃ t,
      t = { bootstrapped with
        environment := { bootstrapped.environment with stack := merged }
        journal := t.journal } ∧
      t.journal.notes = bootstrapped.journal.notes ++ attempt.release.1.journal.notes ∧
      r.refreshNow.runOn s = (r.announce changed.keys).runOn t := by
  obtain ⟨journal, hnotes, hreload⟩ :=
    exists_runOn_reload (s := (r.snapshot.runOn s).2) hbootstrap houtcome hmerge hrelease
  unfold refreshNow
  rw [runOn_snapshot] at hreload
  rw [Act.runOn_bind, runOn_snapshot, hold]
  simp only [Act.runOn_bind, hreload, runOn_snapshot, hnew, Act.runOn_ofExcept, hchanges,
    Act.runOn_record]
  refine ⟨?_, ?session, ?notes, ?rest⟩
  case rest =>
    simp only [announce, Act.runOn_bind]
    rfl
  case session => rfl
  case notes => exact hnotes

/-- Where every layer answers for a key, look-ups among the compared layers come to an end. -/
theorem exists_findIn?
    {layers all : List Layer} {key : Value} (hsub : ∀ layer ∈ r.compared layers, layer ∈ all)
    (henumerable : ∀ layer ∈ all, layer.everywhere Layer.isEnumerable = true)
    (hanswers : ∀ layer ∈ all, layer.everywhere (Layer.answers key) = true) :
    ∃ found, Layer.findIn? key (r.compared layers) = .ok found :=
  Layer.findIn?_ok
    (Layer.everywhereIn_iff.mpr fun layer hl => henumerable layer (hsub layer hl))
    (Layer.everywhereIn_iff.mpr fun layer hl => hanswers layer (hsub layer hl))

/--
**A refresh reports exactly what readers see change.**  The live layers become the merge of those
before with what was bootstrapped.  The reported keys are pairwise different, and a key is one of
them if and only if look-ups outside the standard layers differ before and after the call; such
look-ups come to an end where every layer answers for the key.  When the bootstrap and the merge are
done and everything allocated is closed, with nothing noted but by the bootstrap and by close
callbacks, the keys are published once; then the scope discards its instances and the keys are
returned, unless a listener interrupts or the scope fails.
-/
theorem refresh_reports
    (r : Refresher) (s : Session) (attempt : Attempt) (result : BootstrapResult)
    (bootstrapped : Session) (h : r.Undisturbed s attempt result bootstrapped) :
    ∃ keys merged report t,
      (merge r.rules s.environment.stack (freshLayers result)).outcome = .ok (merged, report) ∧
      (r.refresh.runOn s).2.environment.stack = merged ∧
      (keys.Pairwise fun k l => (k == l) = false) ∧
      (∀ key a b,
        Layer.findIn? key (r.compared s.environment.stack.layers) = .ok a →
        Layer.findIn? key (r.compared merged.layers) = .ok b →
        (keys.any (· == key) = true ↔ Differ a b)) ∧
      (∀ key,
        (∀ layer ∈ r.compared (s.environment.stack.layers ++ freshLayers result),
          layer.everywhere (Layer.answers key) = true) →
        (∃ a, Layer.findIn? key (r.compared s.environment.stack.layers) = .ok a) ∧
          ∃ b, Layer.findIn? key (r.compared merged.layers) = .ok b) ∧
      t = { bootstrapped with
        environment := { bootstrapped.environment with stack := merged }
        journal := t.journal } ∧
      t.journal.notes = bootstrapped.journal.notes ++ attempt.release.1.journal.notes ∧
      (∀ i ∈ attempt.releaseOrder, ∀ j, attempt.tracking.handles.OnChain i j →
        attempt.release.1.isClosed j = true) ∧
      r.refresh.runOn s =
        (((r.announce keys).runOn t).1, setRefreshing false ((r.announce keys).runOn t).2) ∧
      (∀ failure,
        ((Act.publishIf r.publishes (.environmentChange keys)).runOn t).1 = .error failure →
          failure.isOrdinary = false) ∧
      ∀ u, (Act.publishIf r.publishes (.environmentChange keys)).runOn t = (.ok (), u) →
        (r.scope.refreshAll.runOn u).1 = .ok () → (r.refresh.runOn s).1 = .ok keys := by
  obtain ⟨merged, report, hmerge, hmem⟩ :=
    exists_merged r.rules s.environment.stack (freshLayers result)
  have hlive : ∀ layer ∈ r.compared s.environment.stack.layers,
      layer ∈ r.compared (s.environment.stack.layers ++ freshLayers result) := fun _ =>
    mem_compared_append fun _ => Or.inl
  have hmerged : ∀ layer ∈ r.compared merged.layers,
      layer ∈ r.compared (s.environment.stack.layers ++ freshLayers result) := fun _ =>
    mem_compared_append hmem
  have hcomparable : ∀ e ∈ Layer.entriesIn (r.compared s.environment.stack.layers),
      ∀ f ∈ Layer.entriesIn (r.compared merged.layers), e.2.Comparable f.2 := by
    intro e he f hf
    obtain ⟨layer, hlayer, hfl⟩ := Layer.mem_entriesIn.mp hf
    exact h.comparable e he f (Layer.mem_entriesIn.mpr ⟨layer, hmerged layer hlayer, hfl⟩)
  obtain ⟨old, new, changed, hold, hnew, hchanges, hiff⟩ :=
    exists_reported (fun layer hl => h.enumerable layer (hlive layer hl))
      (fun layer hl => h.enumerable layer (hmerged layer hl)) hcomparable
  have hreleased := Attempt.released_release h.tame
  obtain ⟨t, hsession, hnotes, hrun⟩ :=
    exists_runOn_refreshNow (s := setRefreshing true s) hold h.bootstrapper_eq h.outcome_eq
      (h.stack_eq ▸ hmerge) hreleased.interruption_eq hnew hchanges
  have hrefresh := runOn_refresh h.idle hrun
  refine ⟨changed.keys, merged, report, t, hmerge, ?_, changed.keys_distinct, hiff, ?_, hsession,
    hnotes, hreleased.isClosed, hrefresh, Act.failsOnly_publishIf _ _ t, ?_⟩
  · rw [hrefresh]
    exact (congrArg Environment.stack (keeps_announce r changed.keys t)).trans
      (congrArg (fun u => u.environment.stack) hsession)
  · intro key hanswers
    exact ⟨exists_findIn? hlive h.enumerable hanswers,
      exists_findIn? hmerged h.enumerable hanswers⟩
  · intro u hpublish hscope
    rw [hrefresh]
    exact outcome_announce hpublish hscope

/-! ## An example -/

/-- A text of one letter as a value. -/
def letter (c : Char) : Value :=
  .str ⟨[.char c]⟩

/-- A layer named by a letter, with entries of letters. -/
def letterLayer (name : Char) (entries : List (Char × Char)) : Layer :=
  .ofEntries ⟨[.char name]⟩ (Table.ofList (entries.map fun e => (letter e.1, letter e.2)))

/-- Two handles, one the parent of the other, whose close callbacks speak and fail. -/
def exampleHandles : Handles :=
  Handles.ofList
    [Handle.make ⟨[.char 'p']⟩ none [[.say [letter 'p'], .fail (.raised .value ⟨[.char 'e']⟩)]],
      Handle.make ⟨[.char 'c']⟩ (some 0) [[.say [letter 'c']]]]

/-- A session with a listener that fails, over some live layers. -/
def exampleSession (live : LayerStack) : Session :=
  { (default : Session) with
    environment := ⟨live, [], []⟩
    publisher := ⟨[⟨.environmentChange, ⟨[.char 'l']⟩⟩]⟩
    listeners := Table.ofList
      [(⟨[.char 'l']⟩, [.fail (.raised .runtime ⟨[.char 'e']⟩)])] }

/-- A bootstrap that succeeds with some fresh layers. -/
def exampleAttempt (fresh : LayerStack) : Attempt :=
  ⟨⟨exampleHandles, [0, 1]⟩, .ok ⟨⟨fresh, [], []⟩, some 1⟩⟩

/-- A refresher with that bootstrap, a publisher and a recording scope. -/
def exampleRefresher (fresh : LayerStack) : Refresher :=
  ⟨⟨[⟨[.char 's']⟩], ⟨[.char 'd']⟩⟩, fun _ s => (exampleAttempt fresh, s), true, .recording⟩

theorem equal?_letter (c d : Char) :
    (letter c).equal? (letter d) = .ok (letter c == letter d) := by
  obtain ⟨agree, h⟩ := Value.exists_equal?_eq (letter c) (letter d)
  exact h

/-- The layers that are live before the refresh, of which the second one is standard. -/
def exampleLive : List Layer :=
  [letterLayer 'a' [('x', '1'), ('y', '2')], letterLayer 's' [('z', '0')]]

/-- The layers that the bootstrap builds. -/
def exampleFresh : List Layer :=
  [letterLayer 'a' [('x', '3')], letterLayer 'b' [('y', '2'), ('n', '4')],
    letterLayer 's' [('z', '9')]]

/-- One key is modified, one only moves, one is added, and one is standard. -/
theorem refresh_reports_example :
    ∃ live fresh keys,
      live.layers = exampleLive ∧ fresh.layers = exampleFresh ∧
      (exampleRefresher fresh).Undisturbed (exampleSession live) (exampleAttempt fresh)
        ⟨⟨fresh, [], []⟩, some 1⟩
        ((exampleRefresher fresh).snapshot.runOn (setRefreshing true (exampleSession live))).2 ∧
      ((exampleRefresher fresh).refresh.runOn (exampleSession live)).1 = .ok keys ∧
      keys.any (· == letter 'x') = true ∧
      keys.any (· == letter 'y') = false ∧
      keys.any (· == letter 'n') = true ∧
      keys.any (· == letter 'z') = false ∧
      ((exampleRefresher fresh).refresh.runOn (exampleSession live)).2.journal.notes =
        [.said [letter 'c'], .said [letter 'p'],
          .event ⟨[.char 'l']⟩ (.environmentChange keys), .refreshAll] := by
  have hdistinct : (exampleLive.map Layer.name).Nodup ∧ (exampleFresh.map Layer.name).Nodup := by
    decide
  obtain ⟨live, -, hlive⟩ := LayerStack.exists_ofList hdistinct.1
  obtain ⟨fresh, -, hfresh⟩ := LayerStack.exists_ofList hdistinct.2
  have hfreshLayers : freshLayers ⟨⟨fresh, [], []⟩, some 1⟩ = exampleFresh := by
    unfold freshLayers
    rw [hfresh]
    rfl
  have hundisturbed : (exampleRefresher fresh).Undisturbed (exampleSession live)
      (exampleAttempt fresh) ⟨⟨fresh, [], []⟩, some 1⟩
      ((exampleRefresher fresh).snapshot.runOn (setRefreshing true (exampleSession live))).2 := by
    refine ⟨rfl, rfl, rfl, rfl, ?_, ?_, ?_⟩
    · show exampleHandles.Tame
      decide
    · show ∀ layer ∈ Layer.outside [⟨[.char 's']⟩] (live.layers ++ _), _
      rw [hlive, hfreshLayers]
      decide
    · show ∀ e ∈ Layer.entriesIn (Layer.outside [⟨[.char 's']⟩] live.layers),
        ∀ f ∈ Layer.entriesIn (Layer.outside [⟨[.char 's']⟩] (live.layers ++ _)), _
      rw [hlive, hfreshLayers]
      have hletters (es : List (Char × Char)) :
          ∀ e ∈ es.map fun e => (letter e.1, letter e.2), ∃ c, e.2 = letter c := by
        intro e he
        obtain ⟨p, -, rfl⟩ := List.mem_map.mp he
        exact ⟨p.2, rfl⟩
      intro e he f hf
      obtain ⟨c, hc⟩ := hletters [('x', '1'), ('y', '2')] e he
      obtain ⟨d, hd⟩ :=
        hletters [('x', '1'), ('y', '2'), ('x', '3'), ('y', '2'), ('n', '4')] f hf
      rw [hc, hd]
      exact ⟨_, equal?_letter c d⟩
  obtain ⟨keys, merged, report, t, hmerge, -, -, hiff, -, ht, hnotes, -, hrefresh, -, hreturn⟩ :=
    refresh_reports _ _ _ _ _ hundisturbed
  have hmerged : merged.layers =
      [letterLayer 'a' [('x', '3')], letterLayer 'b' [('y', '2'), ('n', '4')],
        letterLayer 's' [('z', '0')]] := by
    rw [hfreshLayers] at hmerge
    obtain ⟨m, hm, hplaced⟩ := exists_placed (exampleRefresher fresh).rules live hdistinct.2
    obtain ⟨rfl, -⟩ := Prod.mk.inj (Except.ok.inj (hm.symm.trans hmerge))
    rw [hplaced.layers_eq, hlive]
    rfl
  have hreported : ∀ key a b,
      Layer.findIn? key (Layer.outside [⟨[.char 's']⟩] live.layers) = .ok a →
      Layer.findIn? key (Layer.outside [⟨[.char 's']⟩] merged.layers) = .ok b →
      (keys.any (· == key) = true ↔ Differ a b) := hiff
  rw [hlive, hmerged] at hreported
  obtain ⟨u, hpublished, hdelivered⟩ :
      ∃ u, (Act.publishIf (exampleRefresher fresh).publishes (.environmentChange keys)).runOn t =
          (.ok (), u) ∧
        u.journal.notes =
          t.journal.notes ++ [.event ⟨[.char 'l']⟩ (.environmentChange keys)] := by
    rw [ht]
    exact ⟨_, rfl, rfl⟩
  refine ⟨live, fresh, keys, hlive, hfresh, hundisturbed, hreturn u hpublished rfl, ?_, ?_, ?_, ?_,
    ?_⟩
  · exact (hreported (letter 'x') (some (letter '1')) (some (letter '3')) rfl rfl).mpr
      (equal?_letter '1' '3')
  · refine Bool.eq_false_iff.mpr fun h => ?_
    have hdiffer := (hreported (letter 'y') (some (letter '2')) (some (letter '2')) rfl rfl).mp h
    cases (equal?_letter '2' '2').symm.trans hdiffer
  · exact (hreported (letter 'n') none (some (letter '4')) rfl rfl).mpr trivial
  · exact Bool.eq_false_iff.mpr fun h => (hreported (letter 'z') none none rfl rfl).mp h
  · have hannounced : (((exampleRefresher fresh).announce keys).runOn t).2.journal.notes =
        u.journal.notes ++ [.refreshAll] := by
      rw [announce, Act.runOn_bind, hpublished]
      rfl
    have hstarted : ((exampleRefresher fresh).snapshot.runOn
        (setRefreshing true (exampleSession live))).2.journal.notes = [] := rfl
    have hreleased : (exampleAttempt fresh).release.1.journal.notes =
        [.said [letter 'c'], .said [letter 'p']] := by
      cbv
    rw [hrefresh, journal_setRefreshing, hannounced, hdelivered, hnotes, hstarted, hreleased]
    rfl

end Refresher

end LiveConfig
