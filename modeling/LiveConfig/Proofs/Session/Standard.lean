import LiveConfig.Proofs.Scope.Lookups
import LiveConfig.Proofs.Session.Renewal
import LiveConfig.Proofs.Stack.Standard

/-!
# Refreshing is blind to the standard layers

Two runs of a refresh start from live layers, and merge layers, that differ in the standard ones
only: in what stands in these, in how they are made, or in which of their reads fail.  Up to the
point where a refresh knows what has changed, nothing can tell the two runs apart.  From there on
both announce the same keys, from sessions that differ in nothing but standard layers.

Whoever is told can look.  A listener or a factory that looks a property up reads the standard
layers too, and what it finds there can make it act differently, or interrupt the refresh.  Apart
from such look-ups the two runs do the same up to their ends.

**Results.**
* `Refresher.TwinRuns.findChanges`: both refreshes find the same changes or fail alike.
* `Refresher.refresh_ignores_standard`: the two runs as wholes.
* `Refresher.interrupting_lookup_tells_apart`: what a listener finds in a standard layer can decide
  how a refresh ends.
-/

namespace LiveConfig

/-! ## Sessions that differ in their standard layers only -/

/--
The live layers of two sessions differ in the standard ones only, and listeners, subscriptions and
scope do not differ.
-/
structure Session.Twins (rules : MergeRules) (s t : Session) : Prop where
  live : rules.Alike s.environment.stack.layers t.environment.stack.layers
  publisher_eq : s.publisher = t.publisher
  listeners_eq : s.listeners = t.listeners
  scope_eq : s.scope = t.scope

/-- A listener or a factory of a session looks a property up. -/
def Session.LooksUp (s : Session) (key : Value) : Prop :=
  (∃ name actions, s.listeners.get? name = some actions ∧ .property key ∈ actions) ∨
    s.scope.LooksUp key

/-- Two bootstraps fail alike, or build layers that differ in the standard ones only. -/
def MergeRules.BuildAlike (rules : MergeRules) :
    Except Failure BootstrapResult → Except Failure BootstrapResult → Prop
  | .ok a, .ok b => rules.Alike a.environment.stack.layers b.environment.stack.layers
  | .error failure, .error failure' => failure = failure'
  | _, _ => False

namespace Refresher

variable {r r' : Refresher} {s t u v : Session}

/--
Two runs of a refresh that differ in the standard layers only, in what is live and in what is
bootstrapped.
-/
structure TwinRuns (r r' : Refresher) (s t : Session) : Prop where
  refresher_eq : r' = { r with bootstrapper := r'.bootstrapper }
  idle : s.refreshing = false
  idle' : t.refreshing = false
  start : s.Twins r.rules t
  bootstrapped : (r.bootstrapFrom s).2.Twins r.rules (r'.bootstrapFrom t).2
  built : r.rules.BuildAlike (r.bootstrapFrom s).1.outcome (r'.bootstrapFrom t).1.outcome
  -- what close callbacks note is no matter, only whether one of them interrupts the release
  released_eq : (r.bootstrapFrom s).1.release.2 = (r'.bootstrapFrom t).1.release.2

/-! ## Up to the point where the changes are known -/

theorem runAlike_snapshot (r : Refresher) :
    Act.RunAlike (Session.Twins r.rules) r.snapshot r.snapshot := by
  intro s t h
  rw [runOn_snapshot, runOn_snapshot, h.live.extract_eq]
  exact ⟨rfl, h.live, h.publisher_eq, h.listeners_eq, h.scope_eq⟩

theorem runAlike_mergeResult
    {a b : BootstrapResult}
    (h : r.rules.Alike a.environment.stack.layers b.environment.stack.layers) :
    Act.RunAlike (Session.Twins r.rules) (r.mergeResult a) (r.mergeResult b) := by
  intro s t hst
  obtain ⟨merged, merged', report, report', hmerge, hmerge', halike⟩ :=
    MergeRules.exists_alike_merge hst.live (h.filter_ne Names.refreshArgs)
  obtain ⟨journal, -, hrun⟩ := exists_runOn_mergeResult hmerge
  obtain ⟨journal', -, hrun'⟩ := exists_runOn_mergeResult hmerge'
  rw [hrun, hrun']
  exact ⟨rfl, halike, hst.publisher_eq, hst.listeners_eq, hst.scope_eq⟩

/-- What bootstraps built is merged alike. -/
theorem runAlike_load
    {first second : Except Failure BootstrapResult} (h : r.rules.BuildAlike first second) :
    Act.RunAlike (Session.Twins r.rules) (Act.ofExcept first >>= r.mergeResult)
      (Act.ofExcept second >>= r.mergeResult) := by
  match first, second, h with
  | .ok a, .ok b, h => exact runAlike_mergeResult h
  | .error failure, .error _, rfl => exact fun s t hst => ⟨rfl, hst⟩

theorem runAlike_releaseAttempt
    {a b : Attempt} (h : a.release.2 = b.release.2) :
    Act.RunAlike (Session.Twins r.rules) (releaseAttempt a) (releaseAttempt b) := by
  intro s t hst
  rw [runOn_releaseAttempt, runOn_releaseAttempt, h]
  exact ⟨rfl, hst.live, hst.publisher_eq, hst.listeners_eq, hst.scope_eq⟩

theorem runAlike_andAlways
    {R : Session → Session → Prop} {x y cleanup cleanup' : Act Unit} (hxy : Act.RunAlike R x y)
    (hcleanup : Act.RunAlike R cleanup cleanup') :
    Act.RunAlike R (andAlways x cleanup) (andAlways y cleanup') := by
  intro s t hst
  obtain ⟨houtcome, hafter⟩ := hxy s t hst
  obtain ⟨hcleaned, hend⟩ := hcleanup _ _ hafter
  rw [runOn_andAlways, runOn_andAlways, houtcome, hcleaned]
  exact ⟨rfl, hend⟩

/-- Both refreshes find the same changes or fail alike, and the sessions are twins. -/
theorem TwinRuns.findChanges (h : r.TwinRuns r' s t) :
    (r.findChanges.runOn (setRefreshing true s)).1 =
      (r'.findChanges.runOn (setRefreshing true t)).1 ∧
    (r.findChanges.runOn (setRefreshing true s)).2.Twins r.rules
      (r'.findChanges.runOn (setRefreshing true t)).2 := by
  have hrules : r'.rules = r.rules := by rw [h.refresher_eq]
  have hsnapshot : r'.snapshot = r.snapshot := by rw [h.refresher_eq]; rfl
  have hmerge : r'.mergeResult = r.mergeResult := by rw [h.refresher_eq]; rfl
  have hextract := h.start.live.extract_eq
  rw [runOn_findChanges, runOn_findChanges, hrules, hsnapshot, hmerge, ← hextract]
  cases hbefore : (extract r.rules.standard s.environment.stack.layers).outcome with
  | error failure =>
    exact ⟨rfl, h.start.live, h.start.publisher_eq, h.start.listeners_eq, h.start.scope_eq⟩
  | ok before =>
    have hreload := runAlike_andAlways (runAlike_load h.built)
      (runAlike_releaseAttempt (r := r) h.released_eq)
    have hcompare : Act.RunAlike (Session.Twins r.rules)
        (r.snapshot >>= fun after => Act.ofExcept (changes before after))
        (r.snapshot >>= fun after => Act.ofExcept (changes before after)) :=
      (runAlike_snapshot r).bind fun after => .ofExcept _
    exact (hreload.bind fun _ => hcompare) _ _ h.bootstrapped

/-! ## Standard layers are left alone -/

/-- A standard layer that the bootstrap leaves alone is untouched after the refresh. -/
def KeepsStandard (r : Refresher) (s : Session) : Prop :=
  ∀ name, r.rules.standard.contains name = true →
    (r.bootstrapFrom s).2.environment.stack.get? name = s.environment.stack.get? name →
    (r.refresh.runOn s).2.environment.stack.get? name = s.environment.stack.get? name

theorem keepsStandard (r : Refresher) (hidle : s.refreshing = false) : r.KeepsStandard s := by
  intro name hname hboot
  have hmerge (result : BootstrapResult) :
      Act.Keeps (fun t => t.environment.stack.get? name) (r.mergeResult result) := by
    intro t
    obtain ⟨m, hm, hkept⟩ := exists_kept r.rules t.environment.stack (freshLayers result)
    obtain ⟨journal, -, hrun⟩ := exists_runOn_mergeResult (outcome_merge hm)
    rw [hrun]
    exact hkept.standard name hname
  have hcompare (before : Entries) :
      Act.Keeps (fun t => t.environment.stack.get? name)
        (r.snapshot >>= fun after => Act.ofExcept (changes before after)) :=
    Act.Keeps.bind (fun _ => rfl) fun _ _ => rfl
  have hfind : (r.findChanges.runOn (setRefreshing true s)).2.environment.stack.get? name =
      s.environment.stack.get? name := by
    rw [runOn_findChanges]
    cases (extract r.rules.standard s.environment.stack.layers).outcome with
    | error failure => rfl
    | ok before =>
      have hload := keeps_load hmerge (fun _ _ => rfl) (r.bootstrapFrom s).1
      exact ((hload.bind fun _ => hcompare before) (r.bootstrapFrom s).2).trans hboot
  rw [runOn_refresh_eq_finish hidle rfl, environment_finish]
  exact hfind

/-! ## From the point where the changes are known -/

/--
Twin sessions where certain properties have the same values, no others are looked up, and the same
has been noted and logged since the journals were others.
-/
structure Hears (rules : MergeRules) (keys : Value → Prop) (j k : Journal) (s t : Session) : Prop
    extends s.Twins rules t where
  lookups : ∀ key, keys key →
    Act.propertiesOf s.environment key = Act.propertiesOf t.environment key
  confines : s.Confines fun action => ∀ key, action = .property key → keys key
  confined : s.scope.Confined keys
  exists_added : ∃ added, s.journal = j ++ added ∧ t.journal = k ++ added

section Hears

variable {rules : MergeRules} {keys : Value → Prop} {j k : Journal}

/-- Whatever both sessions add to their journals. -/
theorem Hears.add
    (h : Hears rules keys j k s t) (add : Journal → Journal)
    (hadd : ∀ i i', add (i ++ i') = i ++ add i') :
    Hears rules keys j k { s with journal := add s.journal }
      { t with journal := add t.journal } := by
  obtain ⟨added, hs, ht⟩ := h.exists_added
  refine ⟨⟨h.live, h.publisher_eq, h.listeners_eq, h.scope_eq⟩, h.lookups, h.confines, h.confined,
    add added, ?_, ?_⟩
  · show add s.journal = j ++ add added
    rw [hs, hadd]
  · show add t.journal = k ++ add added
    rw [ht, hadd]

theorem runAlike_note (n : Note) :
    Act.RunAlike (Hears rules keys j k) (Act.note n) (Act.note n) := fun _ _ h =>
  ⟨rfl, h.add (·.note n) fun i i' => Journal.append_note i i' n⟩

theorem runAlike_record (level : LogLevel) (channel : LogChannel) (text : Text) :
    Act.RunAlike (Hears rules keys j k) (Act.record level channel text)
      (Act.record level channel text) := fun _ _ h =>
  ⟨rfl, h.add (·.record level channel text) fun i i' =>
    Journal.append_addRecords i i' [⟨level, channel, text⟩]⟩

/-- Work with the scope runs alike if it asks for certain properties only. -/
theorem runAlike_ofScope
    {α : Type} {f : PropertySource → LazyScope → LazyScope.Step α}
    (hf : ∀ {p q s}, (∀ key, keys key → p key = q key) → s.Confined keys →
      LazyScope.SameStep keys (f p s) (f q s)) :
    Act.RunAlike (Hears rules keys j k) (Act.ofScope f) (Act.ofScope f) := by
  have hrun (s : Session) (step : LazyScope.Step α)
      (hstep : f (Act.propertiesOf s.environment)
        { s.scope with journal := Journal.empty } = step) :
      (Act.ofScope f).runOn s =
        (step.1, { s with
          scope := { step.2 with journal := Journal.empty }
          journal := s.journal ++ step.2.journal }) := by
    rw [← hstep]
    rfl
  intro s t h
  obtain ⟨added, hs, ht⟩ := h.exists_added
  obtain ⟨hsame, hconfined⟩ := hf (s := { s.scope with journal := Journal.empty }) h.lookups
    (h.confined.of_registrations_eq rfl)
  generalize hstep : f (Act.propertiesOf s.environment)
    { s.scope with journal := Journal.empty } = step at hsame hconfined
  rw [h.scope_eq] at hsame
  rw [hrun s step hstep, hrun t step hsame.symm]
  refine ⟨rfl, ⟨h.live, h.publisher_eq, h.listeners_eq, rfl⟩, h.lookups, h.confines,
    hconfined.of_registrations_eq rfl, added ++ step.2.journal, ?_, ?_⟩
  · rw [hs, Journal.append_assoc]
  · rw [ht, Journal.append_assoc]

/-- Listeners who look up nothing else do the same in both sessions. -/
theorem lockstep_hears :
    Act.Lockstep (fun action => ∀ key, action = .property key → keys key)
      (Hears rules keys j k) where
  publisher_eq h := h.publisher_eq
  listeners_eq h := h.listeners_eq
  isActive_eq h name := by rw [h.scope_eq]
  confines h := h.confines
  property_eq h hallowed := h.lookups _ (hallowed _ rfl)
  subscribed h p := ⟨⟨h.live, rfl, h.listeners_eq, h.scope_eq⟩, h.lookups, h.confines, h.confined,
    h.exists_added⟩
  note := runAlike_note
  record := runAlike_record
  fetch name := runAlike_ofScope fun hpq hs => LazyScope.fetch_congr hpq name hs

theorem runAlike_refreshAll (scope : ScopeKind) :
    Act.RunAlike (Hears rules keys j k) scope.refreshAll scope.refreshAll := by
  cases scope with
  | lazy publishes =>
    exact (runAlike_ofScope LazyScope.clear_congr).bind fun _ =>
      lockstep_hears.publishIf publishes _
  | recording => exact runAlike_note _
  | failing failure => exact (runAlike_note _).bind fun _ => .throw failure

/-- What has been found is reported alike. -/
theorem runAlike_report (r : Refresher) (found : Except Failure Entries) :
    Act.RunAlike (Hears rules keys j k) (r.report found) (r.report found) := by
  refine (Act.RunAlike.ofExcept found).bind fun changed => ?_
  refine (runAlike_record _ _ _).bind fun _ => ?_
  refine (lockstep_hears.publishIf r.publishes _).bind fun _ => ?_
  exact (runAlike_refreshAll r.scope).bind fun _ => .pure _

end Hears

/--
**Standard layers cannot influence what a refresh finds.**  Two runs whose live layers and
bootstraps differ in the standard layers only find the same changes or fail alike.  Then they do one
and the same thing, which is to report these changes, from sessions that differ in their standard
layers only.  They end with the same names in the same order and with the same other layers, and
each run leaves its own standard layers as they were.  If the properties that listeners and
factories look up have the same values after both merges, then the two refreshes return the same
keys or fail alike, note and log the same from there on, so that the same events are received, and
end in such sessions again.
-/
theorem refresh_ignores_standard
    (r r' : Refresher) (s t : Session) (h : r.TwinRuns r' s t) :
    ∃ found u v,
      r.findChanges.runOn (setRefreshing true s) = (found, u) ∧
      r'.findChanges.runOn (setRefreshing true t) = (found, v) ∧
      r.refresh.runOn s = r.finish found u ∧
      r'.refresh.runOn t = r.finish found v ∧
      (∀ failure, found = .error failure →
        (r.refresh.runOn s).1 = .error failure ∧ (r'.refresh.runOn t).1 = .error failure) ∧
      u.Twins r.rules v ∧
      r.rules.Alike (r.refresh.runOn s).2.environment.stack.layers
        (r'.refresh.runOn t).2.environment.stack.layers ∧
      r.KeepsStandard s ∧
      r'.KeepsStandard t ∧
      ((∀ key, u.LooksUp key →
          Act.propertiesOf u.environment key = Act.propertiesOf v.environment key) →
        (r.refresh.runOn s).1 = (r'.refresh.runOn t).1 ∧
        (r.refresh.runOn s).2.Twins r.rules (r'.refresh.runOn t).2 ∧
        ∃ added, (r.refresh.runOn s).2.journal = u.journal ++ added ∧
          (r'.refresh.runOn t).2.journal = v.journal ++ added) := by
  obtain ⟨houtcome, htwins⟩ := h.findChanges
  rcases hfound : r.findChanges.runOn (setRefreshing true s) with ⟨found, u⟩
  rcases hfound' : r'.findChanges.runOn (setRefreshing true t) with ⟨found', v⟩
  rw [hfound, hfound'] at houtcome htwins
  obtain rfl : found = found' := houtcome
  have hrefresh := runOn_refresh_eq_finish h.idle hfound
  have hrefresh' : r'.refresh.runOn t = r.finish found v := by
    have hreport : r'.report = r.report := by
      rw [h.refresher_eq]
      rfl
    rw [runOn_refresh_eq_finish h.idle' hfound', finish, hreport]
    rfl
  refine ⟨found, u, v, rfl, rfl, hrefresh, hrefresh', ?_, htwins, ?_, keepsStandard r h.idle,
    keepsStandard r' h.idle', fun hlookups => ?_⟩
  · rintro failure rfl
    rw [hrefresh, hrefresh']
    exact ⟨rfl, rfl⟩
  · rw [hrefresh, hrefresh', environment_finish, environment_finish]
    exact htwins.live
  · have hhears : Hears r.rules u.LooksUp u.journal v.journal u v := by
      refine ⟨htwins, hlookups, ?_, fun key hkey => .inr hkey, Journal.empty, ?_, ?_⟩
      · rintro name actions hactions action haction key rfl
        exact .inl ⟨name, actions, hactions, haction⟩
      · exact (Journal.append_empty _).symm
      · exact (Journal.append_empty _).symm
    obtain ⟨hsame, hend⟩ := runAlike_report r found u v hhears
    rw [hrefresh, hrefresh']
    exact ⟨hsame, ⟨hend.live, hend.publisher_eq, hend.listeners_eq, hend.scope_eq⟩,
      hend.exists_added⟩

/-! ## Examples -/

theorem layers_stackOf {layers : List Layer} (h : (layers.map Layer.name).Nodup) :
    (stackOf layers).layers = layers := by
  obtain ⟨stack, hstack, hlayers⟩ := LayerStack.exists_ofList h
  unfold stackOf
  rw [hstack]
  exact hlayers

/-- A standard layer with an entry. -/
def plainLayer : Layer :=
  letterLayer 's' [('z', '0')]

/-- A standard layer of another kind, whose reading is interrupted. -/
def interruptedLayer : Layer :=
  .lookup "s" Table.empty ⟨[(letter 'z', .raised .interrupt "stop")], none⟩

/-- A layer on top of a standard one. -/
def layersAbove (standard : Layer) (value : Char) : List Layer :=
  [letterLayer 'a' [('x', value)], standard]

/-- A listener that looks a property up. -/
def lookingListeners (key : Char) : Table Text (List ListenerAction) :=
  Table.ofList [("l", [.property (letter key)])]

/-- A session with that listener. -/
def lookingSession (standard : Layer) (key : Char) : Session :=
  { exampleSession (stackOf (layersAbove standard '1')) with listeners := lookingListeners key }

theorem eq_of_looksUp
    {c : Char} {key : Value} (hlisteners : u.listeners = lookingListeners c)
    (hscope : u.scope = default) (h : u.LooksUp key) : key = letter c := by
  rcases h with ⟨name, actions, hactions, hkey⟩ | ⟨name, r, n, hr, -⟩
  · rw [hlisteners] at hactions
    have hentries : (lookingListeners c).entries =
        [(("l" : Text), [ListenerAction.property (letter c)])] := rfl
    have hmem := Table.mem_entries_iff (e := (name, actions)).mpr hactions
    rw [hentries, List.mem_singleton] at hmem
    obtain ⟨-, rfl⟩ := Prod.mk.inj hmem
    cases List.mem_singleton.mp hkey
    rfl
  · rw [hscope] at hr
    cases hr

/-- A refresher that merges another value. -/
def valueRefresher (standard : Layer) : Refresher :=
  exampleRefresher (stackOf (layersAbove standard '2'))

theorem alike_layersAbove
    {x y : Layer} (hx : x.name = "s") (hy : y.name = "s") (standard : Layer) (value : Char) :
    (valueRefresher standard).rules.Alike (stackOf (layersAbove x value)).layers
      (stackOf (layersAbove y value)).layers := by
  have hdistinct {z : Layer} (hz : z.name = "s") :
      ((layersAbove z value).map Layer.name).Nodup := by
    have hnames : (layersAbove z value).map Layer.name = (["a", "s"] : List Text) :=
      congrArg (fun name => ([("a" : Text), name] : List Text)) hz
    rw [hnames]
    decide
  rw [layers_stackOf (hdistinct hx), layers_stackOf (hdistinct hy)]
  refine .cons (.refl _ _) (.cons ⟨hx.trans hy.symm, fun h => ?_⟩ .nil)
  rw [hx] at h
  cases h

theorem twinRuns_looking (key : Char) :
    (valueRefresher plainLayer).TwinRuns (valueRefresher interruptedLayer)
      (lookingSession plainLayer key) (lookingSession interruptedLayer key) where
  refresher_eq := rfl
  idle := rfl
  idle' := rfl
  start := ⟨alike_layersAbove rfl rfl plainLayer '1', rfl, rfl, rfl⟩
  bootstrapped := ⟨alike_layersAbove rfl rfl plainLayer '1', rfl, rfl, rfl⟩
  built := alike_layersAbove rfl rfl plainLayer '2'
  released_eq := rfl

/-- A listener that looks up what the standard layers do not decide makes no difference. -/
theorem refresh_ignores_standard_example :
    ((valueRefresher plainLayer).refresh.runOn (lookingSession plainLayer 'x')).1 =
      .ok [letter 'x'] ∧
    ((valueRefresher interruptedLayer).refresh.runOn (lookingSession interruptedLayer 'x')).1 =
      .ok [letter 'x'] ∧
    ((valueRefresher interruptedLayer).refresh.runOn
        (lookingSession interruptedLayer 'x')).2.environment.stack.get? "s" =
      some interruptedLayer := by
  obtain ⟨found, u, v, hfound, hfound', -, -, -, -, -, -, hkept, hlooked⟩ :=
    refresh_ignores_standard _ _ _ _ (twinRuns_looking 'x')
  have hagree : ∀ key, u.LooksUp key →
      Act.propertiesOf u.environment key = Act.propertiesOf v.environment key := by
    obtain rfl : ((valueRefresher plainLayer).findChanges.runOn
        (setRefreshing true (lookingSession plainLayer 'x'))).2 = u := congrArg Prod.snd hfound
    obtain rfl : ((valueRefresher interruptedLayer).findChanges.runOn
        (setRefreshing true (lookingSession interruptedLayer 'x'))).2 = v :=
      congrArg Prod.snd hfound'
    intro key hkey
    obtain rfl := eq_of_looksUp (c := 'x') rfl rfl hkey
    rfl
  have hplain : ((valueRefresher plainLayer).refresh.runOn (lookingSession plainLayer 'x')).1 =
      .ok [letter 'x'] := rfl
  obtain ⟨hsame, -, -⟩ := hlooked hagree
  exact ⟨hplain, hsame.symm.trans hplain, hkept "s" rfl rfl⟩

/-- A listener that runs into the standard layers makes one refresh fail and the other one not. -/
theorem interrupting_lookup_tells_apart :
    (valueRefresher plainLayer).TwinRuns (valueRefresher interruptedLayer)
      (lookingSession plainLayer 'z') (lookingSession interruptedLayer 'z') ∧
    ((valueRefresher plainLayer).refresh.runOn (lookingSession plainLayer 'z')).1 =
      .ok [letter 'x'] ∧
    ((valueRefresher interruptedLayer).refresh.runOn (lookingSession interruptedLayer 'z')).1 =
      .error (.raised .interrupt "stop") :=
  ⟨twinRuns_looking 'z', rfl, rfl⟩

end Refresher

end LiveConfig
