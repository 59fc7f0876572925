import LiveConfig.Proofs.Session.Containment
import LiveConfig.Proofs.Settings.Boot

/-!
# Refreshing after boot

A boot loads files in the environment without them and puts their layer into it.  A refresh looks
for files in the environment with their layer and with its overrides on top.  The layer can
configure the search itself, and only then do the two look for different files.

The invariant is that the layers are those after boot but for the numbers of values (`AfterBoot`).
A refresh that looks for the same files keeps it, since it merges the layer of these files into
layers of the same names.  Whether it looks for the same files does not depend on the numbers; so
it is decided once and for all by the environment of the boot.

**Results.**
* `AfterBoot.next`: one refresh keeps the layers after boot, but for the numbers.
* `Settings.refreshes_search_like_boot_iff`: when refreshes look for the files of the boot.
* `Settings.refreshes_after_boot`: refreshes of unchanged files change and report nothing.
-/

namespace LiveConfig

namespace Settings

variable {st : Settings} {vars : List (Text × Text)} {fs : List LoadedFile}

/-! ## What is found after boot -/

theorem areTexts_variableEntries (vars : List (Text × Text)) :
    ∀ e ∈ (variableEntries vars).entries, e.1.IsText ∧ e.2.IsText := by
  refine Table.forall_insertAll (List.forall_mem_nil _) fun e he => ?_
  obtain ⟨v, -, rfl⟩ := List.mem_map.mp he
  exact ⟨⟨v.1, rfl⟩, ⟨v.2, rfl⟩⟩

/-- The value of a key in the variables or else in the files. -/
def configured (vars : List (Text × Text)) (fs : List LoadedFile) (key : Text) : Value :=
  ((firstValue? (.str key) (variableEntries vars).entries).or
    (firstValue? (.str key) (fs.flatMap fun f => f.entries.entries))).getD .null

theorem entriesIn_bootLayers (vars : List (Text × Text)) (files : Layer) :
    Layer.entriesIn (bootLayers vars files) =
      (variableEntries vars).entries ++ Layer.entriesIn [files] := by
  simp [bootLayers, Layer.entriesIn, Layer.tablesIn, Layer.ofEntries, Layer.tables, Table.empty]

/-- After boot a key has its configured value, numbered. -/
theorem exists_firstValue?_bootLayers
    (vars : List (Text × Text)) (first : Nat) (fs : List LoadedFile) (key : Text) :
    ∃ n, (firstValue? (.str key)
        (Layer.entriesIn (bootLayers vars (compositeFrom first fs)))).getD .null =
      (configured vars fs key).numberFrom n := by
  obtain ⟨n, hn⟩ := exists_firstValue?_layersFrom (.str key) first fs
  refine ⟨n, ?_⟩
  rw [entriesIn_bootLayers, entriesIn_compositeFrom, firstValue?_append, hn, configured]
  cases hvar : firstValue? (.str key) (variableEntries vars).entries with
  | none => cases firstValue? (.str key) (fs.flatMap fun f => f.entries.entries) <;> rfl
  | some v =>
    obtain ⟨k, hmem, -⟩ := exists_mem_of_firstValue? hvar
    obtain ⟨s, rfl⟩ := (areTexts_variableEntries vars _ hmem).2
    rfl

theorem isFaultless_bootLayers
    (vars : List (Text × Text)) {files : Layer}
    (h : files.everywhere Layer.isFaultless = true) :
    Layer.everywhereIn Layer.isFaultless (bootLayers vars files) = true := by
  simp only [bootLayers, Layer.everywhereIn, h]
  rfl

theorem isFaultless_workLayers
    (vars : List (Text × Text)) {files : Layer}
    (h : files.everywhere Layer.isFaultless = true) :
    Layer.everywhereIn Layer.isFaultless (refreshOverrides :: bootLayers vars files) = true := by
  have hoverrides : refreshOverrides.everywhere Layer.isFaultless = true := rfl
  rw [Layer.everywhereIn, hoverrides, isFaultless_bootLayers vars h, Bool.and_self]

/-- The overrides of a refresh do not configure the search. -/
theorem firstValue?_refreshOverrides :
    ∀ key ∈ FileSource.searchKeys,
      firstValue? (.str key) (refreshOverrides.tables.flatMap Table.entries) = none := by
  simp only [← Option.isNone_iff_eq_none]
  decide

/--
A source looks for the same files whatever the numbers of the files before, and under overrides.
-/
theorem sameSearch_work
    {source : FileSource} {env work : Environment} {first first' : Nat}
    (henv : env.stack.layers = bootLayers vars (compositeFrom first fs))
    (hwork : work.stack.layers = refreshOverrides :: bootLayers vars (compositeFrom first' fs)) :
    source.SameSearch work env := by
  refine FileSource.sameSearch_of_found fun key hkey => ?_
  obtain ⟨n, hn⟩ := exists_firstValue?_bootLayers vars first' fs key
  obtain ⟨n', hn'⟩ := exists_firstValue?_bootLayers vars first fs key
  refine ⟨configured vars fs key, n, n', ?_, ?_⟩
  · have hfaultless : Layer.everywhereIn Layer.isFaultless work.stack.layers = true := by
      rw [hwork]
      exact isFaultless_workLayers vars (isFaultless_compositeFrom first' fs)
    rw [Environment.get_eq_ok hfaultless, hwork, Layer.entriesIn_cons, firstValue?_append,
      firstValue?_refreshOverrides key hkey, Option.none_or, hn]
  · have hfaultless : Layer.everywhereIn Layer.isFaultless env.stack.layers = true := by
      rw [henv]
      exact isFaultless_bootLayers vars (isFaultless_compositeFrom first fs)
    rw [Environment.get_eq_ok hfaultless, henv, hn']

/-- No entry of a layer configures the search for files. -/
def IsSilent (layer : Layer) : Prop :=
  ∀ e ∈ Layer.entriesIn [layer], ∀ key ∈ FileSource.searchKeys, (e.1 == Value.str key) = false

instance (layer : Layer) : Decidable (IsSilent layer) :=
  inferInstanceAs (Decidable (∀ e ∈ Layer.entriesIn [layer],
    ∀ key ∈ FileSource.searchKeys, (e.1 == Value.str key) = false))

/-- Files that do not configure the search leave it as it was before they were loaded. -/
theorem sameSearch_bare
    {source : FileSource} {env bare : Environment} {files : Layer}
    (henv : env.stack.layers = bootLayers vars files) (hbare : bare.stack.layers = bareLayers vars)
    (hfaultless : files.everywhere Layer.isFaultless = true) (h : IsSilent files) :
    source.SameSearch env bare := by
  have hbareFaultless : Layer.everywhereIn Layer.isFaultless bare.stack.layers = true := by
    rw [hbare]
    rfl
  have henvFaultless : Layer.everywhereIn Layer.isFaultless env.stack.layers = true := by
    rw [henv]
    exact isFaultless_bootLayers vars hfaultless
  have hentries : Layer.entriesIn (bareLayers vars) = (variableEntries vars).entries := by
    simp [bareLayers, Layer.entriesIn, Layer.tablesIn, Layer.ofEntries, Layer.tables, Table.empty]
  refine FileSource.sameSearch_of_get_eq fun key hkey => ?_
  have hnone : firstValue? (.str key) (Layer.entriesIn [files]) = none := by
    refine Option.eq_none_iff_forall_ne_some.mpr fun v hv => ?_
    obtain ⟨k, hmem, hk⟩ := exists_mem_of_firstValue? hv
    rw [h _ hmem key hkey] at hk
    cases hk
  rw [Environment.get_eq_ok henvFaultless, Environment.get_eq_ok hbareFaultless, henv, hbare,
    entriesIn_bootLayers, hentries, firstValue?_append, hnone, Option.or_none]

/-! ## Boot -/

/-- What a successful boot has come to. -/
structure Boots (st : Settings) (vars : List (Text × Text)) (d : Desk) (bare env : Environment)
    (fs : List LoadedFile) : Prop where
  bare_eq : st.bareEnvironment vars = .ok bare
  bare_layers : bare.stack.layers = bareLayers vars
  loaded_eq : st.source.loaded bare d.files = .ok fs
  layers_eq : env.stack.layers = bootLayers vars (compositeFrom d.nextNan fs)
  active_eq : env.active = bare.active
  defaults_eq : env.defaults = bare.defaults

theorem Boots.get?_eq
    {d : Desk} {bare env : Environment} (h : st.Boots vars d bare env fs) :
    env.stack.get? Names.applicationConfig = some (compositeFrom d.nextNan fs) := by
  refine LayerStack.get?_eq_some_iff.mpr ⟨?_, name_compositeFrom d.nextNan fs⟩
  rw [h.layers_eq]
  simp [bootLayers]

/-- A boot that succeeds has loaded files in the bare environment and installed their layer. -/
theorem exists_boots
    {d : Desk} {env : Environment} (hfiles : d.files.Unlimited)
    (h : ((st.buildEnvironment vars).run d).1 = .ok env) :
    ∃ bare fs, st.Boots vars d bare env fs := by
  obtain ⟨bare, hbare, hlayers, -, -⟩ := exists_bareEnvironment st vars
  obtain ⟨after, hrun, -⟩ := st.source.gives_buildIn hfiles (st.bareEnvironment vars)
  have hbuilt := (congrArg Prod.fst hrun).symm.trans h
  obtain ⟨start, hstart, hrest⟩ := exists_ok_of_bind hbuilt
  obtain rfl : bare = start := Except.ok.inj (hbare.symm.trans hstart)
  obtain ⟨fs, hloaded, hinstall⟩ := exists_ok_of_bind hrest
  obtain ⟨stack, hstack, henv⟩ := exists_ok_of_bind hinstall
  obtain rfl := Except.ok.inj henv
  obtain ⟨t, ht, htlayers⟩ := exists_install_bare hlayers (name_compositeFrom d.nextNan fs)
  obtain rfl : t = stack := Except.ok.inj (ht.symm.trans hstack)
  exact ⟨bare, fs, hbare, hlayers, hloaded, htlayers, rfl, rfl⟩

end Settings

/-! ## One refresh -/

/--
A refresh of a session merges nothing new and announces that no key has changed.  It returns no keys
unless a listener interrupts or the scope fails.
-/
def Refresher.ReportsNothing (r : Refresher) (s : Session) : Prop :=
  ∃ t,
    t = { s with
      environment := { s.environment with stack := t.environment.stack }
      nextNan := t.nextNan
      refreshing := true
      journal := t.journal } ∧
    t.environment.stack.layers = s.environment.stack.layers ∧
    r.refresh.runOn s =
      (((r.announce []).runOn t).1, setRefreshing false ((r.announce []).runOn t).2) ∧
    (∀ failure,
      ((Act.publishIf r.publishes (.environmentChange [])).runOn t).1 = .error failure →
        failure.isOrdinary = false) ∧
    ∀ u, (Act.publishIf r.publishes (.environmentChange [])).runOn t = (.ok (), u) →
      (r.scope.refreshAll.runOn u).1 = .ok () → (r.refresh.runOn s).1 = .ok []

/-- The environment in which the next refresh of a session looks for files. -/
def Session.workEnvironment (s : Session) : Except Failure Environment :=
  (BootstrapRequest.ofEnvironment s.environment refreshOverrides).toEnvironment

/-- The two handles of a bootstrap from files have no callbacks. -/
theorem FileSource.tame_trackHandles : (trackHandles Tracking.empty).1.handles.Tame := by
  decide

theorem FileSource.bootstrap_eq
    {source : FileSource} {request : BootstrapRequest} {d after : Desk}
    {outcome : Except Failure Environment}
    (h : (source.buildIn request.toEnvironment).run d = (outcome, after)) (t : Tracking) :
    source.bootstrap t request d =
      (⟨(trackHandles t).1, outcome.map fun env => ⟨env, some (trackHandles t).2⟩⟩, after) := by
  unfold bootstrap
  rw [buildEnvironment_eq, h]

/-- A refresh attempts what its source can build, and leaves the environment for now. -/
theorem FileSource.exists_attempts
    {source : FileSource} {r : Refresher} {s : Session} {after : Desk}
    {outcome : Except Failure Environment} (hr : r.bootstrapper = source.bootstrapper)
    (h : (source.buildIn s.workEnvironment).run ⟨s.files, [], s.nextNan⟩ = (outcome, after)) :
    ∃ attempt context journal,
      r.Attempts s attempt { s with
        files := after.files
        refreshing := true
        nextNan := after.nextNan
        journal := journal } ∧
      attempt.outcome = outcome.map fun env => ⟨env, some context⟩ := by
  have hboot := bootstrap_eq h Tracking.empty
  let attempt : Attempt := ⟨(trackHandles Tracking.empty).1,
    outcome.map fun env => ⟨env, some (trackHandles Tracking.empty).2⟩⟩
  let before := s.journal.addRecords (extract r.rules.standard s.environment.stack.layers).log
  refine ⟨attempt, _, before.addRecords after.log, ⟨?_, tame_trackHandles⟩, rfl⟩
  rw [hr, Refresher.runOn_snapshot]
  unfold bootstrapper bootstrapWith Refresher.setRefreshing
  simp only [hboot]
  rfl

/-- A refresh bootstraps if its source can build an environment, and then nothing is interrupted. -/
theorem FileSource.exists_bootstraps
    {source : FileSource} {r : Refresher} {s : Session} {env : Environment} {after : Desk}
    (hr : r.bootstrapper = source.bootstrapper)
    (h : (source.buildIn s.workEnvironment).run ⟨s.files, [], s.nextNan⟩ = (.ok env, after)) :
    ∃ attempt context journal,
      r.Bootstraps s attempt ⟨env, context⟩ { s with
        files := after.files
        refreshing := true
        nextNan := after.nextNan
        journal := journal } := by
  obtain ⟨attempt, context, journal, hattempts, houtcome⟩ := exists_attempts hr h
  exact ⟨attempt, some context, journal, hattempts.bootstrapper_eq, houtcome, hattempts.released⟩

/-- Layers without read faults have a snapshot, of keys and values that stand in them. -/
theorem exists_extract_of_isFaultless
    {layers : List Layer} (h : Layer.everywhereIn Layer.isFaultless layers = true)
    (excluded : List Text) {p q : Value → Prop}
    (hentries : ∀ e ∈ Layer.entriesIn layers, p e.1 ∧ q e.2) :
    ∃ snapshot,
      (extract excluded layers).outcome = .ok snapshot ∧
      ∀ e ∈ snapshot.entries, p e.1 ∧ q e.2 := by
  have henumerable : ∀ layer ∈ Layer.outside excluded layers,
      layer.everywhere Layer.isEnumerable = true := by
    intro layer hlayer
    exact Layer.everywhere_mono (fun _ => Layer.isEnumerable_of_isFaultless)
      (Layer.everywhereIn_iff.mp h layer (Layer.mem_outside.mp hlayer).1)
  refine exists_extract ?_ ?_
  · intro layer hlayer
    exact Layer.everywhere_mono (fun _ => Layer.failsOrdinarily_of_isEnumerable)
      (henumerable layer hlayer)
  · intro e he
    rw [Layer.pruneTops_eq_outside henumerable] at he
    obtain ⟨layer, hlayer, hentry⟩ := Layer.mem_entriesIn.mp he
    exact hentries e (Layer.mem_entriesIn.mpr ⟨layer, (Layer.mem_outside.mp hlayer).1, hentry⟩)

/-- A session with the layers after boot, but for the numbers of values. -/
structure AfterBoot (vars : List (Text × Text)) (bare : Environment) (files : FileTree)
    (fs : List LoadedFile) (s : Session) : Prop where
  idle : s.refreshing = false
  files_eq : s.files = files
  active_eq : s.environment.active = bare.active
  defaults_eq : s.environment.defaults = bare.defaults
  layers_eq : ∃ first,
    s.environment.stack.layers = Settings.bootLayers vars (compositeFrom first fs)

namespace AfterBoot

variable {vars : List (Text × Text)} {bare : Environment} {files : FileTree} {fs : List LoadedFile}
variable {s : Session} {source : FileSource} {r : Refresher}

theorem exists_work (h : AfterBoot vars bare files fs s) :
    ∃ work first, s.workEnvironment = .ok work ∧
      work.stack.layers = refreshOverrides :: Settings.bootLayers vars (compositeFrom first fs) ∧
      work.effectiveProfiles = bare.effectiveProfiles := by
  obtain ⟨first, hlayers⟩ := h.layers_eq
  obtain ⟨work, hwork, hall, hactive, hdefaults⟩ :=
    Settings.exists_toEnvironment hlayers (name_compositeFrom first fs)
  refine ⟨work, first, hwork, hall, ?_⟩
  unfold Environment.effectiveProfiles
  rw [hactive, hdefaults, h.active_eq, h.defaults_eq]

/-- The layers after boot have a snapshot, of keys and values that stand in them. -/
theorem exists_snapshot
    (h : AfterBoot vars bare files fs s) (excluded : List Text) {p q : Value → Prop}
    (hentries : ∀ e ∈ Layer.entriesIn s.environment.stack.layers, p e.1 ∧ q e.2) :
    ∃ snapshot,
      (extract excluded s.environment.stack.layers).outcome = .ok snapshot ∧
      ∀ e ∈ snapshot.entries, p e.1 ∧ q e.2 := by
  obtain ⟨first, hlayers⟩ := h.layers_eq
  have hfaultless : Layer.everywhereIn Layer.isFaultless s.environment.stack.layers = true := by
    rw [hlayers]
    exact Settings.isFaultless_bootLayers vars (isFaultless_compositeFrom first fs)
  exact exists_extract_of_isFaultless hfaultless excluded hentries

/--
A refresh that looks for the same files as the boot bootstraps, and merges into the live layers what
leaves them as they were after boot.
-/
theorem exists_merged
    (h : AfterBoot vars bare files fs s) (hfiles : files.Unlimited)
    (hloaded : source.loaded bare files = .ok fs) (hr : r.bootstrapper = source.bootstrapper)
    (hsearch : ∀ work, s.workEnvironment = .ok work → source.SameSearch work bare) :
    ∃ attempt result bootstrapped merged report first,
      r.Bootstraps s attempt result bootstrapped ∧
      bootstrapped = { s with
        refreshing := true
        nextNan := bootstrapped.nextNan
        journal := bootstrapped.journal } ∧
      (merge r.rules bootstrapped.environment.stack (Refresher.freshLayers result)).outcome =
        .ok (merged, report) ∧
      merged.layers = Settings.bootLayers vars (compositeFrom first fs) := by
  obtain ⟨work, first, hwork, hlayers, hprofiles⟩ := h.exists_work
  have hreloaded : source.loaded work s.files = .ok fs := by
    rw [h.files_eq, (hsearch work hwork).loaded_eq hprofiles, hloaded]
  obtain ⟨stack, hstack, hinstalled⟩ :=
    Settings.exists_install_work hlayers (name_compositeFrom first fs)
      (name_compositeFrom s.nextNan fs)
  -- the source takes the same steps as in the boot, but from the environment of the session
  have hbuilt : (do
      let env ← s.workEnvironment
      let fs ← source.loaded env s.files
      let stack ← env.stack.install (compositeFrom s.nextNan fs)
      return ({ env with stack := stack } : Environment)) = .ok { work with stack := stack } := by
    rw [hwork]
    simp only [bind, Except.bind, hreloaded, hstack]
    rfl
  have hunlimited : (Desk.mk s.files [] s.nextNan).files.Unlimited := by
    show s.files.Unlimited
    rw [h.files_eq]
    exact hfiles
  obtain ⟨after, hrun, hafter⟩ := source.gives_buildIn hunlimited s.workEnvironment
  rw [hbuilt] at hrun
  obtain ⟨attempt, context, journal, hboot⟩ := FileSource.exists_bootstraps hr hrun
  rw [hafter] at hboot
  -- without the overrides the fresh layers are those of a boot
  have hfresh : Refresher.freshLayers ⟨{ work with stack := stack }, context⟩ =
      Settings.bootLayers vars (compositeFrom s.nextNan fs) := by
    show stack.layers.filter _ = _
    rw [hinstalled]
    exact Settings.filter_bootLayers vars (name_compositeFrom s.nextNan fs)
  obtain ⟨old, hold⟩ := h.layers_eq
  obtain ⟨merged, report, hmerge, hmerged⟩ :=
    Settings.exists_merged_boot r.rules hold (name_compositeFrom old fs)
      (name_compositeFrom s.nextNan fs)
  refine ⟨attempt, _, _, merged, report,
    if r.rules.standard.contains Names.applicationConfig then old else s.nextNan,
    hboot, rfl, ?_, ?_⟩
  · rw [hfresh]
    exact hmerge
  · rw [hmerged, name_compositeFrom]
    split <;> rfl

/-- A refresh that looks for the same files leaves the layers as they were, but for numbers. -/
theorem next
    (h : AfterBoot vars bare files fs s) (hfiles : files.Unlimited)
    (hloaded : source.loaded bare files = .ok fs) (hr : r.bootstrapper = source.bootstrapper)
    (hsearch : ∀ work, s.workEnvironment = .ok work → source.SameSearch work bare) :
    AfterBoot vars bare files fs (r.refresh.runOn s).2 := by
  obtain ⟨attempt, result, bootstrapped, merged, report, first, hboot, hsession, hmerge, hlayers⟩ :=
    h.exists_merged hfiles hloaded hr hsearch
  obtain ⟨old, hold, -⟩ :=
    h.exists_snapshot r.rules.standard (p := fun _ => True) (q := fun _ => True)
      fun _ _ => ⟨trivial, trivial⟩
  have hbare := Refresher.bare_refresh hboot h.idle hold hmerge
  rw [hsession] at hbare
  have henvironment : (r.refresh.runOn s).2.environment =
      { s.environment with stack := merged } := congrArg Session.environment hbare
  have hfilesAfter : (r.refresh.runOn s).2.files = s.files :=
    congrArg (fun t => t.files) hbare
  refine ⟨congrArg Session.refreshing hbare, hfilesAfter.trans h.files_eq, ?_, ?_, first, ?_⟩
  · rw [henvironment]
    exact h.active_eq
  · rw [henvironment]
    exact h.defaults_eq
  · rw [henvironment]
    exact hlayers

/--
Where numbers do not show and all that is in the layers is equal to itself, a refresh that looks
for the same files reports nothing.
-/
theorem reportsNothing
    (h : AfterBoot vars bare files fs s) (hfiles : files.Unlimited)
    (hloaded : source.loaded bare files = .ok fs) (hr : r.bootstrapper = source.bootstrapper)
    (hsearch : ∀ work, s.workEnvironment = .ok work → source.SameSearch work bare)
    (hsame : ∀ first,
      Settings.bootLayers vars (compositeFrom first fs) = s.environment.stack.layers)
    (hself : ∀ e ∈ Layer.entriesIn s.environment.stack.layers,
      (e.1 == e.1) = true ∧ e.2.equal? e.2 = .ok true) :
    r.ReportsNothing s := by
  obtain ⟨attempt, result, bootstrapped, merged, report, first, hboot, hsession, hmerge, hlayers⟩ :=
    h.exists_merged hfiles hloaded hr hsearch
  obtain ⟨old, hold, hequal⟩ :=
    h.exists_snapshot r.rules.standard (p := fun k => (k == k) = true)
      (q := fun v => v.equal? v = .ok true) hself
  have hmerged : merged.layers = s.environment.stack.layers := hlayers.trans (hsame first)
  obtain ⟨t, ht, hrun⟩ :=
    Refresher.exists_runOn_refresh_unchanged hboot h.idle hold hequal hmerge hmerged
  have hstack : t.environment.stack = merged := congrArg (fun t => t.environment.stack) ht
  refine ⟨t, ?_, hstack ▸ hmerged, hrun, Act.failsOnly_publishIf _ _ t, fun u hpublish hscope => ?_⟩
  · rw [hsession] at ht
    rw [ht]
  · rw [hrun]
    exact Refresher.outcome_announce hpublish hscope

end AfterBoot

namespace Settings

variable {st : Settings} {vars : List (Text × Text)} {d : Desk} {bare env : Environment}
variable {fs : List LoadedFile} {s : Session}

/-! ## Many refreshes -/

/-- A session that starts with the environment of a boot and the files that it has read. -/
structure Starts (d : Desk) (env : Environment) (s : Session) : Prop where
  idle : s.refreshing = false
  environment_eq : s.environment = env
  files_eq : s.files = d.files

/-- In a session after boot a refresh looks for the same files as in the environment of the boot. -/
theorem Boots.sameSearch
    (h : st.Boots vars d bare env fs) (hs : AfterBoot vars bare d.files fs s) {work : Environment}
    (hwork : s.workEnvironment = .ok work) : st.source.SameSearch work env := by
  obtain ⟨work', first, hwork', hlayers, -⟩ := hs.exists_work
  obtain rfl : work = work' := Except.ok.inj (hwork.symm.trans hwork')
  exact sameSearch_work h.layers_eq hlayers

theorem Boots.start (h : st.Boots vars d bare env fs) (hs : Starts d env s) :
    AfterBoot vars bare d.files fs s := by
  refine ⟨hs.idle, hs.files_eq, ?_, ?_, d.nextNan, ?_⟩
  · rw [hs.environment_eq, h.active_eq]
  · rw [hs.environment_eq, h.defaults_eq]
  · rw [hs.environment_eq, h.layers_eq]

/-- Unless the files change the search, every refresh leaves the layers as they were after boot. -/
theorem Boots.afterBoot
    (h : st.Boots vars d bare env fs) (hfiles : d.files.Unlimited) (hs : Starts d env s)
    (hsearch : st.source.SameSearch env bare) (publishes : Bool) (scope : ScopeKind) (n : Nat) :
    AfterBoot vars bare d.files fs ((st.refresher publishes scope).sessionAfter s n) := by
  induction n with
  | zero => exact h.start hs
  | succ n ih =>
    -- the search is that of the environment of the boot, which stays the same
    exact ih.next hfiles h.loaded_eq rfl fun work hwork => (h.sameSearch ih hwork).trans hsearch

/--
**Refreshes look where the boot has looked, unless the files redirect them.**  All refreshes after
a boot look for the files of the same name in the same directories as the boot, and find the same
ones, if and only if the environment with the files in it leads to the same search as the one
without; which is so if the files configure neither the name nor the directories.
-/
theorem refreshes_search_like_boot_iff
    (hfiles : d.files.Unlimited) (hboot : ((st.buildEnvironment vars).run d).1 = .ok env)
    (hs : Starts d env s) (publishes : Bool) (scope : ScopeKind) :
    ∃ bare files,
      st.bareEnvironment vars = .ok bare ∧
      env.stack.get? Names.applicationConfig = some files ∧
      ((∀ n, ∃ work,
          ((st.refresher publishes scope).sessionAfter s n).workEnvironment = .ok work ∧
          st.source.SameSearch work bare ∧
          st.source.resolveFiles work ((st.refresher publishes scope).sessionAfter s n).files =
            st.source.resolveFiles bare d.files) ↔
        st.source.SameSearch env bare) ∧
      (IsSilent files → st.source.SameSearch env bare) := by
  obtain ⟨bare, fs, h⟩ := exists_boots hfiles hboot
  refine ⟨bare, compositeFrom d.nextNan fs, h.bare_eq, h.get?_eq,
    ⟨fun hall => ?_, fun hsearch n => ?_⟩, ?_⟩
  · obtain ⟨work, hwork, hsearch, -⟩ := hall 0
    exact (h.sameSearch (h.start hs) hwork).symm.trans hsearch
  · have hn := h.afterBoot hfiles hs hsearch publishes scope n
    obtain ⟨work, -, hwork, -, hprofiles⟩ := hn.exists_work
    have hsame := (h.sameSearch hn hwork).trans hsearch
    refine ⟨work, hwork, hsame, ?_⟩
    rw [hn.files_eq, hsame.resolveFiles_eq hprofiles]
  · exact sameSearch_bare h.layers_eq h.bare_layers (isFaultless_compositeFrom d.nextNan fs)

/-! ## Examples with one file -/

/-- Settings that look for files in the working directory. -/
def exampleSettings : Settings :=
  ⟨Names.defaultConfigName, [FilePath.ofText "."], [], [Names.defaultProfile], [], "WARNING"⟩

/-- A file of some text in the working directory. -/
def exampleDesk (text : String) : Desk :=
  let bytes (s : String) : List UInt8 := s.toList.map fun c => c.toNat.toUInt8
  .ofFiles ⟨Table.ofList [(⟨"", [bytes "application.yaml"]⟩, .file (bytes text))], Table.empty⟩

/-- A session with the environment of a boot, whose documents get numbers from a number on. -/
def exampleSession (text : String) (env : Environment) (nextNan : Nat) : Session :=
  { (default : Session) with
    environment := env
    files := (exampleDesk text).files
    nextNan := nextNan }

theorem starts_exampleSession (text : String) (env : Environment) (nextNan : Nat) :
    Starts (exampleDesk text) env (exampleSession text env nextNan) :=
  ⟨rfl, rfl, rfl⟩

theorem unlimited_exampleDesk (text : String) : (exampleDesk text).files.Unlimited := rfl

/-- Whether a process boots from a file of some text, and what it then has fulfils a test. -/
def bootsTo (text : String) (test : Environment → Layer → Session → Bool) : Bool :=
  match (exampleSettings.buildEnvironment []).run (exampleDesk text) with
  | (.ok env, after) =>
    (env.stack.get? Names.applicationConfig).any fun files =>
      test env files (exampleSession text env after.nextNan)
  | (.error _, _) => false

theorem exists_of_bootsTo
    {text : String} {test : Environment → Layer → Session → Bool} (h : bootsTo text test = true) :
    ∃ env files nextNan,
      ((exampleSettings.buildEnvironment []).run (exampleDesk text)).1 = .ok env ∧
      env.stack.get? Names.applicationConfig = some files ∧
      test env files (exampleSession text env nextNan) = true := by
  unfold bootsTo at h
  split at h
  · rename_i env after hrun
    cases hlayer : env.stack.get? Names.applicationConfig with
    | none =>
      rw [hlayer] at h
      cases h
    | some files =>
      rw [hlayer] at h
      exact ⟨env, files, after.nextNan, congrArg Prod.fst hrun, hlayer, h⟩
  · cases h

/-- A file that configures no search is found by every refresh. -/
theorem refreshes_search_like_boot_example :
    ∃ env bare nextNan,
      ((exampleSettings.buildEnvironment []).run (exampleDesk "x: 1")).1 = .ok env ∧
      exampleSettings.bareEnvironment [] = .ok bare ∧
      ∀ n, ∃ work,
        ((exampleSettings.refresher true .recording).sessionAfter
          (exampleSession "x: 1" env nextNan) n).workEnvironment = .ok work ∧
        exampleSettings.source.SameSearch work bare := by
  have hboots : bootsTo "x: 1" (fun _ files _ => decide (IsSilent files)) = true := by
    decide +kernel
  obtain ⟨env, files, nextNan, hboot, hlayer, htest⟩ := exists_of_bootsTo hboots
  obtain ⟨bare, files', hbare, hlayer', hiff, hsilent⟩ :=
    refreshes_search_like_boot_iff (unlimited_exampleDesk "x: 1") hboot
      (starts_exampleSession "x: 1" env nextNan) true .recording
  obtain rfl : files = files' := Option.some.inj (hlayer.symm.trans hlayer')
  refine ⟨env, bare, nextNan, hboot, hbare, fun n => ?_⟩
  obtain ⟨work, hwork, hsearch, -⟩ := hiff.mpr (hsilent (of_decide_eq_true htest)) n
  exact ⟨work, hwork, hsearch⟩

/-- A file that names another base name sends the next refresh to other files. -/
theorem refresh_searches_elsewhere :
    ∃ env nextNan,
      ((exampleSettings.buildEnvironment []).run
        (exampleDesk "rekindle.config.name: other")).1 = .ok env ∧
      (exampleSettings.bareEnvironment []).toOption.bind
          (fun bare => (exampleSettings.source.resolveName bare).toOption) = some "application" ∧
      (exampleSession "rekindle.config.name: other" env nextNan).workEnvironment.toOption.bind
          (fun work => (exampleSettings.source.resolveName work).toOption) = some "other" := by
  have hbare : (exampleSettings.bareEnvironment []).toOption.bind
      (fun bare => (exampleSettings.source.resolveName bare).toOption) = some "application" := by
    decide +kernel
  have hboots : bootsTo "rekindle.config.name: other" (fun _ _ s =>
      decide (s.workEnvironment.toOption.bind
        (fun work => (exampleSettings.source.resolveName work).toOption) = some "other")) =
          true := by
    decide +kernel
  obtain ⟨env, files, nextNan, hboot, -, htest⟩ := exists_of_bootsTo hboots
  exact ⟨env, nextNan, hboot, hbare, of_decide_eq_true htest⟩

/-! ## Unchanged files -/

/-- Whether no value in a layer has a number. -/
def IsUnnumbered (layer : Layer) : Prop :=
  ∀ e ∈ Layer.entriesIn [layer], e.2.isUnnumbered = true

instance (layer : Layer) : Decidable (IsUnnumbered layer) :=
  inferInstanceAs (Decidable (∀ e ∈ Layer.entriesIn [layer], e.2.isUnnumbered = true))

/-- Whether all values in a layer can be compared, as far as their depth is concerned. -/
def IsShallow (layer : Layer) : Prop :=
  ∀ e ∈ Layer.entriesIn [layer], e.2.depth < Value.comparisonLimit

instance (layer : Layer) : Decidable (IsShallow layer) :=
  inferInstanceAs (Decidable (∀ e ∈ Layer.entriesIn [layer], e.2.depth < Value.comparisonLimit))

theorem isUnnumbered_of_mem
    {first : Nat} (h : IsUnnumbered (compositeFrom first fs)) : ∀ f ∈ fs, f.IsUnnumbered := by
  intro f hf e he
  obtain ⟨n, hn⟩ := exists_mem_entriesIn_layersFrom hf first he
  have hnumbered := h _ (entriesIn_compositeFrom first fs ▸ hn)
  rwa [Value.isUnnumbered_numberFrom] at hnumbered

/-- What is in the layers after boot is equal to itself. -/
theorem self_equal_of_isUnnumbered
    {first : Nat} (hleaves : ∀ f ∈ fs, AreLeaves f.entries)
    (h : IsUnnumbered (compositeFrom first fs)) (hshallow : IsShallow (compositeFrom first fs)) :
    ∀ e ∈ Layer.entriesIn (bootLayers vars (compositeFrom first fs)),
      (e.1 == e.1) = true ∧ e.2.equal? e.2 = .ok true := by
  have htext {v : Value} (hv : v.IsText) : (v == v) = true ∧ v.equal? v = .ok true := by
    obtain ⟨s, rfl⟩ := hv
    exact ⟨Value.beq_self_of_isScalar rfl, Value.equal?_self (.scalar rfl) rfl (Nat.succ_pos _)⟩
  intro e he
  rw [entriesIn_bootLayers] at he
  rcases List.mem_append.mp he with hvar | hfile
  · obtain ⟨hkey, hvalue⟩ := areTexts_variableEntries vars e hvar
    exact ⟨(htext hkey).1, (htext hvalue).2⟩
  · have hdepth := hshallow e hfile
    rw [entriesIn_compositeFrom] at hfile
    obtain ⟨f, hf, e', he', n, rfl⟩ := exists_of_mem_entriesIn_layersFrom hfile
    obtain ⟨hkey, hmade⟩ := hleaves f hf e' he'
    have hunnumbered := isUnnumbered_of_mem h f hf e' he'
    simp only [Value.numberFrom_of_isUnnumbered n hunnumbered] at hdepth ⊢
    exact ⟨(htext hkey).1, Value.equal?_self hmade hunnumbered hdepth⟩

/--
**Refreshes after a boot change nothing while the files stay.**  Let the files configure neither
the name nor the directories of files, and let no value in them contain a not-a-number or itself, or
be too deep to be compared.  Then every one of any number of refreshes finds and leaves the layers
of the boot, and with them the snapshot; it announces that no key has changed, and returns no keys
unless a listener interrupts or the scope fails.
-/
theorem refreshes_after_boot
    (hfiles : d.files.Unlimited) (hboot : ((st.buildEnvironment vars).run d).1 = .ok env)
    (hs : Starts d env s) {files : Layer}
    (hlayer : env.stack.get? Names.applicationConfig = some files) (hsilent : IsSilent files)
    (hunnumbered : IsUnnumbered files) (hshallow : IsShallow files) (publishes : Bool)
    (scope : ScopeKind) :
    ∃ snapshot, ∀ n,
      ((st.refresher publishes scope).sessionAfter s n).environment.stack.layers =
        env.stack.layers ∧
      (extract st.standardLayers
        ((st.refresher publishes scope).sessionAfter s n).environment.stack.layers).outcome =
          .ok snapshot ∧
      (st.refresher publishes scope).ReportsNothing
        ((st.refresher publishes scope).sessionAfter s n) := by
  obtain ⟨bare, fs, h⟩ := exists_boots hfiles hboot
  obtain rfl : files = compositeFrom d.nextNan fs :=
    Option.some.inj (hlayer.symm.trans h.get?_eq)
  have hsearch : st.source.SameSearch env bare :=
    sameSearch_bare h.layers_eq h.bare_layers (isFaultless_compositeFrom d.nextNan fs) hsilent
  -- where no value has a number, the layers after boot are the same ones
  have hlayers (first : Nat) : bootLayers vars (compositeFrom first fs) = env.stack.layers := by
    rw [h.layers_eq]
    unfold compositeFrom
    rw [layersFrom_eq_layersFrom (isUnnumbered_of_mem hunnumbered) first d.nextNan]
  have hself : ∀ e ∈ Layer.entriesIn env.stack.layers,
      (e.1 == e.1) = true ∧ e.2.equal? e.2 = .ok true := by
    rw [h.layers_eq]
    exact self_equal_of_isUnnumbered (FileSource.areLeaves_of_loaded h.loaded_eq) hunnumbered
      hshallow
  have hafter := h.afterBoot hfiles hs hsearch publishes scope
  have hsame (n : Nat) :
      ((st.refresher publishes scope).sessionAfter s n).environment.stack.layers =
        env.stack.layers := by
    obtain ⟨first, hfirst⟩ := (hafter n).layers_eq
    rw [hfirst, hlayers first]
  obtain ⟨snapshot, hsnapshot, -⟩ := (hafter 0).exists_snapshot st.standardLayers
    (p := fun _ => True) (q := fun _ => True) fun _ _ => ⟨trivial, trivial⟩
  refine ⟨snapshot, fun n => ⟨hsame n, ?_, ?_⟩⟩
  · rw [hsame n, ← hsame 0]
    exact hsnapshot
  · refine (hafter n).reportsNothing hfiles h.loaded_eq rfl
      (fun work hwork => (h.sameSearch (hafter n) hwork).trans hsearch) (fun first => ?_) ?_
    · rw [hlayers first, hsame n]
    · rw [hsame n]
      exact hself

/-- Refreshes of an unchanged file return no keys. -/
theorem refreshes_after_boot_example :
    ∃ env files nextNan,
      ((exampleSettings.buildEnvironment []).run (exampleDesk "x: 1")).1 = .ok env ∧
      env.stack.get? Names.applicationConfig = some files ∧ IsSilent files ∧ IsUnnumbered files ∧
      IsShallow files ∧
      ∀ n, ((exampleSettings.refresher false .recording).refresh.runOn
        ((exampleSettings.refresher false .recording).sessionAfter
          (exampleSession "x: 1" env nextNan) n)).1 = .ok [] := by
  have hboots : bootsTo "x: 1" (fun _ files _ =>
      decide (IsSilent files ∧ IsUnnumbered files ∧ IsShallow files)) = true := by
    decide +kernel
  obtain ⟨env, files, nextNan, hboot, hlayer, htest⟩ := exists_of_bootsTo hboots
  obtain ⟨hsilent, hunnumbered, hshallow⟩ := of_decide_eq_true htest
  obtain ⟨snapshot, hall⟩ :=
    refreshes_after_boot (unlimited_exampleDesk "x: 1") hboot
      (starts_exampleSession "x: 1" env nextNan) hlayer hsilent hunnumbered hshallow false
      .recording
  refine ⟨env, files, nextNan, hboot, hlayer, hsilent, hunnumbered, hshallow, fun n => ?_⟩
  obtain ⟨-, -, t, -, -, -, -, hreturn⟩ := hall n
  exact hreturn t rfl rfl

/-- A list of pairs that contains itself cannot be compared with what it was before. -/
theorem refresh_after_boot_endless :
    ∃ env files nextNan,
      ((exampleSettings.buildEnvironment []).run
        (exampleDesk "a: &x !!pairs [k: *x]")).1 = .ok env ∧
      env.stack.get? Names.applicationConfig = some files ∧ IsSilent files ∧
      (Layer.entriesIn [files]).map (fun e => e.2.shown) = ["('k', [(...)])"] ∧
      ∀ keys, ((exampleSettings.refresher false .recording).refresh.runOn
        (exampleSession "a: &x !!pairs [k: *x]" env nextNan)).1 ≠ .ok keys := by
  have hboots : bootsTo "a: &x !!pairs [k: *x]" (fun _ files s =>
      decide (IsSilent files ∧
        (Layer.entriesIn [files]).map (fun e => e.2.shown) = ["('k', [(...)])"] ∧
        ((exampleSettings.refresher false .recording).refresh.runOn s).1.isOk = false)) = true := by
    decide +kernel
  obtain ⟨env, files, nextNan, hboot, hlayer, htest⟩ := exists_of_bootsTo hboots
  obtain ⟨hsilent, hshown, hfails⟩ := of_decide_eq_true htest
  refine ⟨env, files, nextNan, hboot, hlayer, hsilent, hshown, fun keys hok => ?_⟩
  rw [hok] at hfails
  cases hfails

end Settings

end LiveConfig
