import LiveConfig.Proofs.Scope.Growth
import LiveConfig.Proofs.Session.Containment
import LiveConfig.Proofs.Session.ScopeRun
import LiveConfig.Proofs.Session.Stages

/-!
# Refreshing renews the instances of a scope

Instances can be built while a refresh bootstraps, while its changed keys are delivered and while
its scope tells that it was refreshed.  The scope is told after the merge, and it discards all that
is there then.  What is built up to then stands behind what was there at the merge, and what is
there in the end was built after that.

A bootstrap that fails is not followed by a merge, and the scope is not told: it stays as the
bootstrap left it.

**Results.**
* `Session.lasts_growsOnly`: whatever listeners do, the scope only grows.
* `Refresher.exists_of_upToMerge`: what has been merged when a refresh has merged.
* `Refresher.refresh_renews_instances`: all instances are renewed by a refresh that succeeds, and
  none is discarded by one whose bootstrap fails.
-/

namespace LiveConfig

/-! ## Listeners that fetch -/

/-- A fetch calls no destroy callback. -/
theorem ScopeMove.not_isDestroy_of_fetch
    {s t : LazyScope} {name : Text} {answer : Except Failure ScopeAnswer} {own : List Note}
    (h : ScopeMove s (.fetch name) answer own t) : ∀ n ∈ own, n.isDestroy = false := by
  cases h with
  | cached | unknown => exact List.forall_mem_nil _
  | failed | built => exact List.forall_mem_singleton.mpr rfl

/-- The scope has grown only, and no destroy callback was called. -/
def Session.GrowsOnly (s t : Session) : Prop :=
  s.scope.Sound → s.scope.Grows t.scope ∧
    ∃ rest, t.journal.notes = s.journal.notes ++ rest ∧ ∀ n ∈ rest, n.isDestroy = false

namespace Session.GrowsOnly

theorem of_scope_eq {s t : Session} (hscope : t.scope = s.scope)
    (hnotes : t.journal.notes = s.journal.notes) : s.GrowsOnly t := fun hs =>
  ⟨hscope.symm ▸ .refl hs, [], hnotes.trans (List.append_nil _).symm, List.forall_mem_nil _⟩

theorem goes : Act.Goes Session.GrowsOnly where
  refl s := of_scope_eq rfl rfl
  trans {s t u} hst htu := by
    intro hs
    obtain ⟨hgrows, rest, hnotes, hrest⟩ := hst hs
    obtain ⟨hgrows', rest', hnotes', hrest'⟩ := htu hgrows.sound
    refine ⟨hgrows.trans hgrows', rest ++ rest', ?_, fun n hn => ?_⟩
    · rw [hnotes', hnotes, List.append_assoc]
    · exact (List.mem_append.mp hn).elim (hrest n) (hrest' n)

end Session.GrowsOnly

/-- Whatever listeners do, the scope only grows. -/
theorem Session.lasts_growsOnly : Act.Lasts (fun _ => True) Session.GrowsOnly where
  goes := GrowsOnly.goes
  note s n hn := by
    intro hs
    refine ⟨.refl hs, [n], rfl, List.forall_mem_singleton.mpr ?_⟩
    cases n <;> first | rfl | cases hn
  record s level channel text := GrowsOnly.of_scope_eq rfl rfl
  publisher s p := GrowsOnly.of_scope_eq rfl rfl
  fetch s name _ := by
    intro hs
    obtain ⟨outcome, t, own, log, hrun, hmove⟩ := Act.exists_runOn_fetch hs name
    rw [hrun]
    exact ⟨hmove.grows hs, own, rfl, hmove.not_isDestroy_of_fetch⟩

theorem Session.growsOnly_publishIf (publishes : Bool) (event : Event) :
    Act.Respects Session.GrowsOnly (Act.publishIf publishes event) := fun _ =>
  lasts_growsOnly.publishIf (fun _ _ _ _ _ => trivial) publishes event

/-! ## Parts of a refresh that leave the scope alone -/

namespace Refresher

variable {r : Refresher} {s t : Session}

/-- What comes first has succeeded, and so has the cleanup. -/
theorem exists_of_andAlways {x cleanup : Act Unit} {u : Session}
    (h : (andAlways x cleanup).runOn s = (.ok (), u)) :
    ∃ t, x.runOn s = (.ok (), t) ∧ cleanup.runOn t = (.ok (), u) := by
  rw [runOn_andAlways] at h
  obtain ⟨houtcome, hu⟩ := Prod.mk.inj h
  obtain ⟨_, hcleanup, hx⟩ := exists_ok_of_bind houtcome
  exact ⟨(x.runOn s).2, Prod.ext hx rfl, Prod.ext hcleanup hu⟩

/-- A failure of what comes first is not undone by the cleanup. -/
theorem exists_error_of_andAlways {x : Act Unit} (cleanup : Act Unit) {failure : Failure}
    (h : (x.runOn s).1 = .error failure) :
    ∃ other, ((andAlways x cleanup).runOn s).1 = .error other := by
  rw [runOn_andAlways, h]
  cases (cleanup.runOn (x.runOn s).2).1 with
  | error other => exact ⟨other, rfl⟩
  | ok _ => exact ⟨failure, rfl⟩

theorem keeps_scope_mergeResult (r : Refresher) (result : BootstrapResult) :
    Act.Keeps Session.scope (r.mergeResult result) := by
  intro s
  obtain ⟨merged, report, hmerge, -⟩ :=
    exists_merged r.rules s.environment.stack (freshLayers result)
  obtain ⟨journal, -, hrun⟩ := exists_runOn_mergeResult hmerge
  rw [hrun]

/-- After the bootstrap nothing touches the scope until the release is done. -/
theorem scope_reload (r : Refresher) (s : Session) :
    (r.reload.runOn (r.snapshot.runOn (setRefreshing true s)).2).2.scope =
      (r.bootstrapFrom s).2.scope := by
  rw [runOn_reload_eq]
  exact keeps_load (keeps_scope_mergeResult r) (fun _ _ => rfl) _ _

/-- A refresh that has merged: what was bootstrapped, and what came of the live layers. -/
structure MergedAt (r : Refresher) (s t : Session) (merged : LayerStack) : Prop where
  exists_result : ∃ result report, (r.bootstrapFrom s).1.outcome = .ok result ∧
    (merge r.rules (r.bootstrapFrom s).2.environment.stack (freshLayers result)).outcome =
      .ok (merged, report)
  stack_eq : t.environment.stack = merged
  scope_eq : t.scope = (r.bootstrapFrom s).2.scope

variable {before : Entries}

/-- What has been merged when a refresh has merged. -/
theorem exists_of_upToMerge
    (h : r.upToMerge.runOn (setRefreshing true s) = (.ok before, t)) :
    ∃ merged, r.MergedAt s t merged := by
  obtain ⟨old, u, hsnapshot, hrest⟩ := exists_run_of_bind h
  obtain ⟨_, v, hreload, hpure⟩ := exists_run_of_bind hrest
  obtain rfl : v = t := (Prod.mk.inj hpure).2
  have hu : u = (r.snapshot.runOn (setRefreshing true s)).2 := (congrArg Prod.snd hsnapshot).symm
  subst hu
  have hscope := r.scope_reload s
  have hrun : r.reload.runOn (r.snapshot.runOn (setRefreshing true s)).2 = (.ok (), v) := hreload
  rw [hrun] at hscope
  rw [runOn_reload_eq] at hrun
  obtain ⟨w, hload, hrelease⟩ := exists_of_andAlways hrun
  obtain ⟨result, b, hresult, hmergeResult⟩ := exists_run_of_bind hload
  obtain ⟨houtcome, rfl⟩ := Prod.mk.inj hresult
  obtain ⟨merged, report, hmerge, -⟩ :=
    exists_merged r.rules (r.bootstrapFrom s).2.environment.stack (freshLayers result)
  obtain ⟨journal, -, hmerged⟩ := exists_runOn_mergeResult hmerge
  have hw : w.environment.stack = merged := by
    have heq := (Prod.mk.inj (hmerged.symm.trans hmergeResult)).2
    rw [← heq]
  have hreleased := runOn_releaseAttempt (r.bootstrapFrom s).1 w
  have hv : v.environment.stack = w.environment.stack := by
    have heq := (Prod.mk.inj (hreleased.symm.trans hrelease)).2
    rw [← heq]
  exact ⟨merged, ⟨result, report, houtcome, hmerge⟩, hv.trans hw, hscope⟩

/-! ## All instances are renewed -/

/-- From the merge until it tells the scope a refresh does nothing to the scope but fetch. -/
theorem growsOnly_upToScope
    {keys : List Value} {u : Session}
    (h : r.upToScope.runOn (setRefreshing true s) = (.ok keys, u)) :
    ∃ before t, r.upToMerge.runOn (setRefreshing true s) = (.ok before, t) ∧ t.GrowsOnly u := by
  obtain ⟨before, t, hmerged, hrest⟩ := exists_run_of_bind h
  refine ⟨before, t, hmerged, ?_⟩
  have hgoes := Session.GrowsOnly.goes
  have hfound (changed : Entries) : Act.Respects Session.GrowsOnly (r.publishFound changed) := by
    have hrecord : Act.Respects Session.GrowsOnly
        (Act.record .info .refreshing (refreshedText changed.keys.length)) := fun t =>
      .of_scope_eq rfl rfl
    exact hrecord.bind hgoes fun _ => (Session.growsOnly_publishIf _ _).bind hgoes fun _ t =>
      hgoes.refl t
  have hsince : Act.Respects Session.GrowsOnly (r.snapshot >>= fun after =>
      Act.ofExcept (changes before after) >>= r.publishFound) := by
    have hsnapshot : Act.Respects Session.GrowsOnly r.snapshot := fun t =>
      .of_scope_eq rfl rfl
    refine hsnapshot.bind hgoes fun after => ?_
    have hchanges : Act.Respects Session.GrowsOnly (Act.ofExcept (changes before after)) := fun t =>
      hgoes.refl t
    exact hchanges.bind hgoes hfound
  have hrun := hsince t
  have hu : ((r.snapshot >>= fun after =>
      Act.ofExcept (changes before after) >>= r.publishFound).runOn t).2 = u :=
    congrArg Prod.snd hrest
  rwa [hu] at hrun

/--
What has become of the instances when a refresh has merged, when it tells the scope, and when it
is over.
-/
structure Renews (merged told ended : Session) : Prop where
  /-- What was there at the merge is there when the scope is told; what is new was built since. -/
  exists_fresh : ∃ fresh,
    told.scope.instances.entries = merged.scope.instances.entries ++ fresh ∧
    ∀ e ∈ fresh, merged.scope.built < e.2.number
  distinct : told.scope.instances.entries.Pairwise fun e f => e.2.number ≠ f.2.number
  /-- Destroy callbacks are called for all that is there when the scope is told, once each. -/
  destroyed : ∃ rest, ended.journal.notes = merged.journal.notes ++ rest ∧
    rest.filter Note.isDestroy =
      told.scope.instances.entries.flatMap told.scope.destroyNotes
  components_eq : told.scope.components = merged.scope.components
  /-- All that was there is discarded and does not come back. -/
  gone : ∀ e ∈ told.scope.instances.entries, ended.scope.Gone e.2.number
  /-- All that is there in the end was built after the merge. -/
  renewed : ∀ name i, ended.scope.instances.get? name = some i → merged.scope.built < i.number
  sound : ended.scope.Sound

/-- Telling the scope discards what is there; what is there afterwards has been built since. -/
theorem renews_of_told
    {publishes : Bool} {u w : Session} (ht : t.scope.Sound) (hgrows : t.GrowsOnly u)
    (htold : (Act.refreshInstances publishes).runOn u = (.ok (), w)) : Renews t u w := by
  obtain ⟨hgrown, rest, hnotes, hrest⟩ := hgrows ht
  obtain ⟨fresh, hentries, hfresh⟩ := hgrown.exists_fresh
  obtain ⟨log, hclear⟩ := Act.exists_runOn_clear hgrown.sound
  have hmove : ScopeMove u.scope .refreshAll (.ok .nothing)
      (u.scope.instances.entries.flatMap u.scope.destroyNotes)
      { u.scope with instances := Table.empty } := .cleared _
  have hcleared := hmove.sound hgrown.sound trivial
  have hall : u.scope.discarded { u.scope with instances := Table.empty } =
      u.scope.instances.entries := LazyScope.discarded_empty rfl
  obtain ⟨_, v, hv, hpublish⟩ := exists_run_of_bind htold
  obtain rfl : u.scoped { u.scope with instances := Table.empty }
      (u.scope.instances.entries.flatMap u.scope.destroyNotes) log = v :=
    (Prod.mk.inj (hclear.symm.trans hv)).2
  have hafter := Session.growsOnly_publishIf publishes (.scopeRefreshed none)
    (u.scoped { u.scope with instances := Table.empty }
      (u.scope.instances.entries.flatMap u.scope.destroyNotes) log)
  have hw : ((Act.publishIf publishes (.scopeRefreshed none)).runOn
      (u.scoped { u.scope with instances := Table.empty }
        (u.scope.instances.entries.flatMap u.scope.destroyNotes) log)).2 = w :=
    congrArg Prod.snd hpublish
  rw [hw] at hafter
  obtain ⟨hrenewed, last, hlast, hquiet⟩ := hafter hcleared
  obtain ⟨new, hnew, hnumbers⟩ := hrenewed.exists_fresh
  have hnone {notes : List Note} (h : ∀ n ∈ notes, n.isDestroy = false) :
      notes.filter Note.isDestroy = [] :=
    List.filter_eq_nil_iff.mpr fun n hn => by simp [h n hn]
  refine ⟨⟨fresh, hentries, hfresh⟩, hgrown.sound.pairwise_entries, ⟨rest ++
    u.scope.instances.entries.flatMap u.scope.destroyNotes ++ last, ?journal, ?notes⟩,
    hgrown.components_eq, fun e he => ?gone, fun name i hi => ?renewed, hrenewed.sound⟩
  case journal =>
    have hscoped : (u.scoped { u.scope with instances := Table.empty }
        (u.scope.instances.entries.flatMap u.scope.destroyNotes) log).journal.notes =
        u.journal.notes ++ u.scope.instances.entries.flatMap u.scope.destroyNotes := rfl
    rw [hlast, hscoped, hnotes]
    simp only [List.append_assoc]
  case notes =>
    rw [List.filter_append, List.filter_append, hnone hrest, hnone hquiet,
      LazyScope.filter_isDestroy_flatMap, List.nil_append, List.append_nil]
  case gone =>
    exact hrenewed.gone (hmove.gone_of_mem_discarded hgrown.sound (hall.symm ▸ he))
  case renewed =>
    have hmem := Table.mem_entries_iff (e := (name, i)).mpr hi
    rw [hnew] at hmem
    exact Nat.lt_of_le_of_lt hgrown.built_le (hnumbers (name, i) hmem)

/-- A refresh comes to its bootstrap: none is under way, and the first snapshot can be taken. -/
def ComesToBootstrap (r : Refresher) (s : Session) : Prop :=
  s.refreshing = false ∧
    ∃ before, (extract r.rules.standard s.environment.stack.layers).outcome = .ok before

/--
A refresh whose bootstrap fails leaves the scope as the bootstrap left it, or as it was if it does
not come to that.
-/
structure KeepsScope (r : Refresher) (s after : Session) : Prop where
  of_bootstrap : r.ComesToBootstrap s → after.scope = (r.bootstrapFrom s).2.scope
  of_no_bootstrap : ¬ r.ComesToBootstrap s → after.scope = s.scope

theorem keepsScope_of_failed
    {failure : Failure} (hfailed : (r.bootstrapFrom s).1.outcome = .error failure) :
    (∃ other, (r.refresh.runOn s).1 = .error other) ∧ r.KeepsScope s (r.refresh.runOn s).2 := by
  cases hidle : s.refreshing with
  | true =>
    rw [runOn_refresh_of_refreshing r hidle]
    exact ⟨⟨_, rfl⟩, fun h => Bool.noConfusion (hidle.symm.trans h.1), fun _ => rfl⟩
  | false =>
    have hfound : ∃ other u, r.findChanges.runOn (setRefreshing true s) = (.error other, u) ∧
        r.KeepsScope s u := by
      rw [runOn_findChanges]
      cases hbefore : (extract r.rules.standard s.environment.stack.layers).outcome with
      | error other =>
        refine ⟨other, _, rfl, fun h => ?_, fun _ => rfl⟩
        obtain ⟨-, before, hok⟩ := h
        cases hbefore.symm.trans hok
      | ok before =>
        have hload : ((Act.ofExcept (r.bootstrapFrom s).1.outcome >>= r.mergeResult).runOn
            (r.bootstrapFrom s).2).1 = .error failure := by
          rw [hfailed]
          rfl
        obtain ⟨other, hother⟩ :=
          exists_error_of_andAlways (releaseAttempt (r.bootstrapFrom s).1) hload
        have hscope := keeps_load (keeps_scope_mergeResult r) (fun _ _ => rfl)
          (r.bootstrapFrom s).1 (r.bootstrapFrom s).2
        refine ⟨other, _, ?_, fun _ => hscope, fun h => absurd ⟨hidle, before, hbefore⟩ h⟩
        dsimp only
        rw [Act.runOn_bind, ← Prod.eta (Act.runOn _ _), hother]
    obtain ⟨other, u, hfound, hkeeps⟩ := hfound
    rw [runOn_refresh_eq_finish hidle hfound]
    exact ⟨⟨other, rfl⟩, hkeeps.of_bootstrap, hkeeps.of_no_bootstrap⟩

theorem KeepsScope.grows
    {after : Session} (h : r.KeepsScope s after) (hs : s.scope.Sound)
    (hboot : s.scope.Fetched (r.bootstrapFrom s).2.scope) : s.scope.Grows after.scope := by
  by_cases hcomes : r.ComesToBootstrap s
  · rw [h.of_bootstrap hcomes]
    exact hboot.grows hs
  · rw [h.of_no_bootstrap hcomes]
    exact .refl hs

/--
**Refreshing renews the instances of a scope.**  The bootstrap and the listeners may fetch
instances.  When a refresh succeeds, all instances that were there when the live layers had been
merged are discarded once, and all that are there in the end were built after that.  When its
bootstrap fails, no instance is discarded: the scope is the one that the bootstrap left, with the
instances that it has built, and all that were there before are there still.
-/
theorem refresh_renews_instances
    (r : Refresher) (publishes : Bool) (s : Session) (hscope : r.scope = .lazy publishes)
    (hs : s.scope.Sound) (hboot : s.scope.Fetched (r.bootstrapFrom s).2.scope) :
    (∀ keys, (r.refresh.runOn s).1 = .ok keys → ∃ before merged t u,
      r.upToMerge.runOn (setRefreshing true s) = (.ok before, t) ∧
      r.MergedAt s t merged ∧
      (r.refresh.runOn s).2.environment = t.environment ∧
      r.upToScope.runOn (setRefreshing true s) = (.ok keys, u) ∧
      Renews t u (r.refresh.runOn s).2) ∧
    ∀ failure, (r.bootstrapFrom s).1.outcome = .error failure →
      (∃ other, (r.refresh.runOn s).1 = .error other) ∧
      s.scope.Grows (r.refresh.runOn s).2.scope ∧ r.KeepsScope s (r.refresh.runOn s).2 := by
  refine ⟨fun keys hkeys => ?_, fun failure hfailed => ?_⟩
  case refine_2 =>
    obtain ⟨hfails, hkeeps⟩ := keepsScope_of_failed hfailed
    exact ⟨hfails, hkeeps.grows hs hboot, hkeeps⟩
  have hidle : s.refreshing = false := by
    cases hrefreshing : s.refreshing with
    | false => rfl
    | true =>
      rw [runOn_refresh_of_refreshing r hrefreshing] at hkeys
      cases hkeys
  rcases hnow : r.refreshNow.runOn (setRefreshing true s) with ⟨outcome, w⟩
  have hrefresh : r.refresh.runOn s = (outcome, setRefreshing false w) := by
    rw [runOn_refresh_of_idle hidle, hnow]
  rw [hrefresh] at hkeys
  obtain rfl : outcome = .ok keys := hkeys
  rw [refreshNow_eq_upToScope] at hnow
  obtain ⟨found, u, hup, hrest⟩ := exists_run_of_bind hnow
  obtain ⟨_, v, htold, hpure⟩ := exists_run_of_bind hrest
  obtain ⟨hfound, hv⟩ := Prod.mk.inj hpure
  obtain rfl : found = keys := Except.ok.inj hfound
  obtain rfl : v = w := hv
  obtain ⟨before, t, hmerged, hgrows⟩ := growsOnly_upToScope hup
  obtain ⟨merged, hmergedAt⟩ := exists_of_upToMerge hmerged
  have ht : t.scope.Sound := hmergedAt.scope_eq ▸ (hboot.grows hs).sound
  rw [hscope] at htold
  have hrenews : Renews t u v := renews_of_told ht hgrows htold
  refine ⟨before, merged, t, u, hmerged, hmergedAt, environment_of_merged hidle hmerged, hup, ?_⟩
  rw [hrefresh]
  exact { hrenews with }

/-! ## An example -/

/-- Layers as a stack if their names are different. -/
def stackOf (layers : List Layer) : LayerStack :=
  match LayerStack.ofList layers with
  | .ok stack => stack
  | .error _ => LayerStack.empty

/-- Three components are registered, one of which has an instance. -/
def renewalCalls : List ScopeCall :=
  [failingComponent "a" (.bool true), failingComponent "b" (.bool true),
    failingComponent "c" (.bool true), .fetch "a", .fetch "b", .fetch "c", .fetch "a"]

def renewalStart : Session :=
  { (default : Session) with environment := ⟨stackOf exampleLive, [], []⟩ }

/-- A session with these components, whose listener fetches two of them and fails. -/
def renewalSession : Session :=
  { ScopeTurn.afterAll false renewalStart renewalCalls with
    publisher := ⟨[⟨.application, "l"⟩]⟩
    listeners := Table.ofList
      [("l", [.fetch "a", .fetch "c", .fail (.raised .runtime "listener")])] }

/-- A bootstrap that fetches the third component before it makes an attempt. -/
def fetchingFor (attempt : Attempt) : Refresher :=
  { exampleRefresher LayerStack.empty with
    bootstrapper := fun _ s => (attempt, { s with
      scope := (LazyScope.fetch (Act.propertiesOf s.environment) "b" s.scope).2.silent })
    scope := .lazy true }

/-- The bootstrap that succeeds. -/
def renewingRefresher : Refresher :=
  fetchingFor (exampleAttempt (stackOf exampleFresh))

theorem sound_renewalSession : renewalSession.scope.Sound := by
  have hcalls : ∀ call ∈ renewalCalls, call.IsQuiet := by
    unfold renewalCalls
    simp only [List.forall_mem_cons]
    exact ⟨isQuiet_failingComponent _ _, isQuiet_failingComponent _ _,
      isQuiet_failingComponent _ _, trivial, trivial, trivial, trivial,
      fun _ h => absurd h List.not_mem_nil⟩
  have hstart : renewalStart.scope.Sound := LazyScope.sound_empty
  have hscope : renewalSession.scope = (ScopeTurn.afterAll false renewalStart renewalCalls).scope :=
    rfl
  rw [hscope]
  exact (ScopeRun.of_sequence false hcalls fun h => nomatch h).sound hstart

/--
Two instances are there at the merge, a third one is built until the scope is told, and the two that
are there in the end are others; and a bootstrap that is interrupted loses no instance.
-/
theorem refresh_renews_instances_example :
    (∃ keys t u,
      (renewingRefresher.refresh.runOn renewalSession).1 = .ok keys ∧
      Renews t u (renewingRefresher.refresh.runOn renewalSession).2 ∧
      numbersOf t.scope.instances.entries = [1, 2] ∧
      numbersOf u.scope.instances.entries = [1, 2, 3] ∧
      numbersOf (renewingRefresher.refresh.runOn renewalSession).2.scope.instances.entries =
        [4, 5]) ∧
    renewalSession.scope.Grows
      ((fetchingFor interruptedAttempt).refresh.runOn renewalSession).2.scope := by
  obtain ⟨hsucceeds, -⟩ := refresh_renews_instances renewingRefresher true renewalSession rfl
    sound_renewalSession (.fetch _ _ .refl)
  obtain ⟨-, hfails⟩ := refresh_renews_instances (fetchingFor interruptedAttempt) true
    renewalSession rfl sound_renewalSession (.fetch _ _ .refl)
  refine ⟨?_, (hfails _ rfl).2.1⟩
  have hok : (renewingRefresher.refresh.runOn renewalSession).1.isOk = true := by
    decide +kernel
  cases houtcome : (renewingRefresher.refresh.runOn renewalSession).1 with
  | error failure =>
    rw [houtcome] at hok
    cases hok
  | ok keys =>
    obtain ⟨before, merged, t, u, hmerged, -, -, htold, hrenews⟩ := hsucceeds keys houtcome
    obtain rfl : (renewingRefresher.upToMerge.runOn (setRefreshing true renewalSession)).2 = t :=
      congrArg Prod.snd hmerged
    obtain rfl : (renewingRefresher.upToScope.runOn (setRefreshing true renewalSession)).2 = u :=
      congrArg Prod.snd htold
    exact ⟨keys, _, _, rfl, hrenews, by decide +kernel, by decide +kernel, by decide +kernel⟩

end Refresher

end LiveConfig
