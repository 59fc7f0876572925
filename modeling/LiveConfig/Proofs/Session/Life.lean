import LiveConfig.Proofs.File.Failing
import LiveConfig.Proofs.Session.Boot
import LiveConfig.Proofs.Session.Stages

/-!
# The life of a process

A process boots and is then refreshed any number of times.  Between the refreshes its files are
edited in any way; they may be broken, and whole again.

The invariant is that the live layers are those after a boot, with some layers of files in them
(`Holds`).  A refresh that cannot load its files leaves them alone.  A refresh that can puts the
layers that it loaded in the place of the old ones when it merges.  What comes after the merge does
not touch the layers, but it can keep the refresh from completing: a comparison that fails, and
nothing else unless the scope fails.

**Results.**
* `Holds.next`: what one refresh does.
* `Refresher.Life.holds`: what a whole life comes to.
* `Settings.life_after_boot`: what a process keeps over its life.
* `Settings.interrupted_refresh_keeps_files`: a refresh need not succeed for its files to be live.
-/

namespace LiveConfig

/-! ## One refresh -/

/-- The layer of the files as a refresh of a session loads it. -/
def FileSource.loadedBy (source : FileSource) (s : Session) : Except Failure Layer :=
  s.workEnvironment >>= fun work => ((source.loadLayer work).run ⟨s.files, [], s.nextNan⟩).1

/-- Files are edited, and anything else may happen but to the live layers. -/
structure Session.EditedTo (s t : Session) : Prop where
  stack_eq : t.environment.stack = s.environment.stack
  refreshing_eq : t.refreshing = s.refreshing

/-- A comparison does not fail for a stack of layers. -/
theorem isOfStack_of_changes
    {before after : Entries} {failure : Failure} (h : changes before after = .error failure) :
    failure.isOfStack = false := by
  obtain ⟨e, -, v, -, hdiffer⟩ := exists_incomparable h
  rcases eq_of_differ? hdiffer with ⟨reason, rfl⟩ | rfl
  · rfl
  · rfl

/-- Nor does what comes out of a refresh that completes. -/
theorem Refresher.isOfStack_of_completes
    {r : Refresher} {s : Session} {failure : Failure} (h : r.Completes s)
    (houtcome : (r.refresh.runOn s).1 = .error failure) :
    failure.isOfStack = false := by
  cases hstack : failure.isOfStack with
  | false => rfl
  | true =>
    have hordinary := Failure.isOrdinary_of_isOfStack hstack
    exact absurd h (not_completes_of_error houtcome hordinary)

/-- A session has the layers of a process, with these layers of its files. -/
structure Holds (vars : List (Text × Text)) (children : List Layer) (s : Session) : Prop where
  idle : s.refreshing = false
  layers_eq : s.environment.stack.layers = Settings.bootLayers vars (fileComposite children)
  faultless : Layer.everywhereIn Layer.isFaultless children = true

namespace Holds

variable {vars : List (Text × Text)} {old children : List Layer} {s : Session}
variable {source : FileSource} {r : Refresher}

theorem isFaultless (h : Holds vars old s) :
    Layer.everywhereIn Layer.isFaultless s.environment.stack.layers = true := by
  rw [h.layers_eq]
  exact Settings.isFaultless_bootLayers vars h.faultless

theorem exists_snapshot (h : Holds vars old s) (excluded : List Text) :
    ∃ snapshot, (extract excluded s.environment.stack.layers).outcome = .ok snapshot := by
  obtain ⟨snapshot, hsnapshot, -⟩ :=
    exists_extract_of_isFaultless (p := fun _ => True) (q := fun _ => True) h.isFaultless excluded
      fun _ _ => ⟨trivial, trivial⟩
  exact ⟨snapshot, hsnapshot⟩

/-- Editing files leaves the layers. -/
theorem edited {t : Session} (h : Holds vars children s) (hedited : s.EditedTo t) :
    Holds vars children t := by
  refine ⟨hedited.refreshing_eq.trans h.idle, ?_, h.faultless⟩
  rw [hedited.stack_eq, h.layers_eq]

/-- A refresh loads its files in the layers of the session, below its overrides. -/
theorem exists_run_loadLayer
    {outcome : Except Failure Layer} (h : Holds vars old s) (hload : source.loadedBy s = outcome) :
    ∃ work after,
      s.workEnvironment = .ok work ∧
      work.stack.layers = refreshOverrides :: Settings.bootLayers vars (fileComposite old) ∧
      (source.loadLayer work).run ⟨s.files, [], s.nextNan⟩ = (outcome, after) := by
  obtain ⟨work, hwork, hlayers, -, -⟩ :=
    Settings.exists_toEnvironment h.layers_eq (name_fileComposite old)
  unfold FileSource.loadedBy at hload
  rw [Session.workEnvironment, hwork, ok_bind] at hload
  exact ⟨work, _, hwork, hlayers, Prod.ext hload rfl⟩

/-- A refresh that cannot load its files fails with that failure and leaves the layers. -/
theorem refresh_of_error
    {failure : Failure} (h : Holds vars old s) (hr : r.bootstrapper = source.bootstrapper)
    (hload : source.loadedBy s = .error failure) :
    failure.StopsLoading ∧ (r.refresh.runOn s).1 = .error failure ∧
      Holds vars old (r.refresh.runOn s).2 := by
  obtain ⟨work, after, hwork, hlayers, hrun⟩ := h.exists_run_loadLayer hload
  have hfaultless : Layer.everywhereIn Layer.isFaultless work.stack.layers = true := by
    rw [hlayers]
    exact Settings.isFaultless_workLayers vars h.faultless
  have hstops := source.failsWith_loadLayer hfaultless _ failure (congrArg Prod.fst hrun)
  have hbuild := FileSource.run_buildIn_of_error hrun
  rw [← hwork] at hbuild
  obtain ⟨attempt, context, journal, hattempts, houtcome⟩ := FileSource.exists_attempts hr hbuild
  obtain ⟨before, hbefore⟩ := h.exists_snapshot r.rules.standard
  rw [Refresher.runOn_refresh_of_error h.idle hbefore hattempts houtcome]
  exact ⟨hstops, rfl, rfl, h.layers_eq, h.faultless⟩

/-- A refresh that loads its files merges their layers. -/
theorem exists_upToMerge
    (h : Holds vars old s) (hr : r.bootstrapper = source.bootstrapper)
    (hload : source.loadedBy s = .ok (fileComposite children)) :
    ∃ before t,
      r.upToMerge.runOn (Refresher.setRefreshing true s) = (.ok before, t) ∧
      t.environment.stack.layers = Settings.bootLayers vars (fileComposite
        (if r.rules.standard.contains Names.applicationConfig then old else children)) := by
  obtain ⟨work, after, hwork, hlayers, hrun⟩ := h.exists_run_loadLayer hload
  have hname := name_fileComposite children
  obtain ⟨stack, hstack, hinstalled⟩ :=
    Settings.exists_install_work hlayers (name_fileComposite old) hname
  have hbuild := FileSource.run_buildIn_of_loaded hrun hstack
  rw [← hwork] at hbuild
  obtain ⟨attempt, context, journal, hattempts, houtcome⟩ := FileSource.exists_attempts hr hbuild
  -- without the overrides the fresh layers are those of a boot
  have hfresh : Refresher.freshLayers ⟨{ work with stack := stack }, some context⟩ =
      Settings.bootLayers vars (fileComposite children) := by
    show stack.layers.filter _ = _
    rw [hinstalled]
    exact Settings.filter_bootLayers vars hname
  obtain ⟨merged, report, hmerge, hmerged⟩ :=
    Settings.exists_merged_boot r.rules h.layers_eq (name_fileComposite old) hname
  rw [← hfresh] at hmerge
  obtain ⟨before, hbefore⟩ := h.exists_snapshot r.rules.standard
  obtain ⟨last, -, hreload⟩ :=
    Refresher.exists_runOn_reload (r := r)
      (s := (r.snapshot.runOn (Refresher.setRefreshing true s)).2)
      hattempts.bootstrapper_eq houtcome hmerge hattempts.released
  refine ⟨before, _, Refresher.runOn_upToMerge hbefore hreload, hmerged.trans ?_⟩
  rw [apply_ite fileComposite]
  rfl

/--
A refresh that cannot load its files leaves the layers and does not complete.  Any other merges the
layers of its files, and completes unless it cannot compare.  None fails for the stack.
-/
theorem next
    (h : Holds vars old s) (hr : r.bootstrapper = source.bootstrapper)
    (hscope : r.ScopeAccepts s) :
    (∀ failure, (r.refresh.runOn s).1 = .error failure → failure.isOfStack = false) ∧
      ((Holds vars old (r.refresh.runOn s).2 ∧ ¬ r.Completes s) ∨
        ∃ children, source.loadedBy s = .ok (fileComposite children) ∧
          Holds vars (if r.rules.standard.contains Names.applicationConfig then old else children)
            (r.refresh.runOn s).2 ∧
          (r.Completes s ∨ ¬ r.Compares s)) := by
  cases hload : source.loadedBy s with
  | error failure =>
    obtain ⟨hstops, houtcome, hholds⟩ := h.refresh_of_error hr hload
    refine ⟨fun other hother => ?_,
      .inl ⟨hholds, Refresher.not_completes_of_error houtcome hstops.isOrdinary⟩⟩
    rw [houtcome] at hother
    exact Except.error.inj hother ▸ hstops.isOfStack
  | ok files =>
    obtain ⟨work, after, -, -, hrun⟩ := h.exists_run_loadLayer hload
    obtain ⟨children, rfl, hchildren⟩ := FileSource.exists_children hrun
    obtain ⟨before, t, hmerged, hlayers⟩ := h.exists_upToMerge hr hload
    have henvironment := Refresher.environment_of_merged h.idle hmerged
    have hholds : Holds vars
        (if r.rules.standard.contains Names.applicationConfig then old else children)
        (r.refresh.runOn s).2 := by
      refine ⟨?_, (congrArg (fun env => env.stack.layers) henvironment).trans hlayers, ?_⟩
      · rw [Refresher.runOn_refresh_of_idle h.idle]
        rfl
      · split
        · exact h.faultless
        · exact hchildren
    obtain ⟨after, hafter⟩ := hholds.exists_snapshot r.rules.standard
    rw [henvironment] at hafter
    rcases Refresher.completes_or_fails h.idle hscope hmerged hafter with
      hcompletes | ⟨failure, hchanges, houtcome⟩
    · exact ⟨fun failure => Refresher.isOfStack_of_completes hcompletes,
        .inr ⟨children, rfl, hholds, .inl hcompletes⟩⟩
    · refine ⟨fun other hother => ?_, .inr ⟨children, rfl, hholds, .inr fun hcompares => ?_⟩⟩
      · rw [houtcome] at hother
        exact Except.error.inj hother ▸ isOfStack_of_changes hchanges
      · have hsnapshot := Refresher.runOn_snapshot r t
        rw [hafter] at hsnapshot
        obtain ⟨changed, hchanged⟩ := hcompares before after t _ hmerged hsnapshot
        rw [hchanges] at hchanged
        cases hchanged

theorem names_eq (h : Holds vars children s) : s.environment.stack.names = Settings.bootNames := by
  rw [LayerStack.names, h.layers_eq]
  exact Settings.names_bootLayers vars (name_fileComposite children)

theorem get?_eq (h : Holds vars children s) :
    s.environment.stack.get? Names.applicationConfig = some (fileComposite children) := by
  refine LayerStack.get?_eq_some_iff.mpr ⟨?_, name_fileComposite children⟩
  rw [h.layers_eq]
  simp [Settings.bootLayers]

/-- A process variable has its value whatever the files hold. -/
theorem get_variable
    (h : Holds vars children s) {key : Text} {v : Value}
    (hv : (Settings.variableEntries vars).get? (.str key) = some v) (default : Value) :
    s.environment.get (.str key) default = .ok v := by
  have hfirst : firstValue? (.str key) (Layer.entriesIn s.environment.stack.layers) = some v := by
    have hfound : firstValue? (.str key) (Settings.variableEntries vars).entries = some v := hv
    rw [h.layers_eq, Settings.entriesIn_bootLayers, firstValue?_append, hfound, Option.some_or]
  unfold Environment.get Environment.find?
  rw [Layer.findIn?_eq_ok h.isFaultless, hfirst]
  rfl

end Holds

/-! ## A life -/

namespace Refresher

/-- Refreshes one after another, each from a session; before and after them files are edited. -/
inductive Life (r : Refresher) : Session → List Session → Session → Prop
  | done {s t : Session} (edited : s.EditedTo t) : Life r s [] t
  | refresh {s t u : Session} {calls : List Session} (edited : s.EditedTo u)
    (rest : Life r (r.refresh.runOn u).2 calls t) : Life r s (u :: calls) t

/--
These layers of files were loaded by the last of some refreshes that completed; or they were there
before, and no refresh completed.
-/
def LastLoaded (r : Refresher) (source : FileSource) (boot : List Layer) (calls : List Session)
    (children : List Layer) : Prop :=
  (children = boot ∧ ∀ u ∈ calls, ¬ r.Completes u) ∨
    ∃ earlier u later, calls = earlier ++ u :: later ∧ r.Completes u ∧
      source.loadedBy u = .ok (fileComposite children) ∧ ∀ v ∈ later, ¬ r.Completes v

variable {r : Refresher} {source : FileSource} {vars : List (Text × Text)}
variable {old new children : List Layer} {s t u : Session} {calls : List Session}

/-- A refresh that does not complete does not count. -/
theorem LastLoaded.cons_of_not_completes
    (h : r.LastLoaded source old calls children) (hu : ¬ r.Completes u) :
    r.LastLoaded source old (u :: calls) children := by
  rcases h with ⟨hchildren, hnone⟩ | ⟨earlier, v, later, rfl, hv⟩
  · exact .inl ⟨hchildren, List.forall_mem_cons.mpr ⟨hu, hnone⟩⟩
  · exact .inr ⟨u :: earlier, v, later, rfl, hv⟩

/-- A refresh that completes takes the place of the boot for those after it. -/
theorem LastLoaded.cons_of_completes
    (h : r.LastLoaded source new calls children) (hu : r.Completes u)
    (hload : source.loadedBy u = .ok (fileComposite new)) :
    r.LastLoaded source old (u :: calls) children := by
  rcases h with ⟨rfl, hnone⟩ | ⟨earlier, v, later, rfl, hv⟩
  · exact .inr ⟨[], u, calls, rfl, hu, hload, hnone⟩
  · exact .inr ⟨u :: earlier, v, later, rfl, hv⟩

/--
A life goes from layers of a process to layers of a process.  Its refreshes do not fail for the
stack, and the layers of the files are those loaded last.
-/
theorem Life.holds
    (h : r.Life s calls t) (hs : Holds vars old s) (hr : r.bootstrapper = source.bootstrapper)
    (hscope : ∀ u ∈ calls, r.ScopeAccepts u) :
    ∃ children, Holds vars children t ∧
      (∀ u ∈ calls, ∀ failure, (r.refresh.runOn u).1 = .error failure →
        failure.isOfStack = false) ∧
      (r.rules.standard.contains Names.applicationConfig = false → (∀ u ∈ calls, r.Compares u) →
        r.LastLoaded source old calls children) := by
  induction h generalizing old with
  | done edited =>
    exact ⟨old, hs.edited edited, List.forall_mem_nil _,
      fun _ _ => .inl ⟨rfl, List.forall_mem_nil _⟩⟩
  | @refresh s t u calls edited rest ih =>
    obtain ⟨hu, hcalls⟩ := List.forall_mem_cons.mp hscope
    obtain ⟨hfailure, ⟨hholds, hstopped⟩ | ⟨new, hload, hholds, hends⟩⟩ :=
      (hs.edited edited).next hr hu
    · obtain ⟨children, hchildren, hfailures, hlast⟩ := ih hholds hcalls
      refine ⟨children, hchildren, List.forall_mem_cons.mpr ⟨hfailure, hfailures⟩, ?_⟩
      intro hstandard hcompares
      have hlater := hlast hstandard (List.forall_mem_cons.mp hcompares).2
      exact hlater.cons_of_not_completes hstopped
    · obtain ⟨children, hchildren, hfailures, hlast⟩ := ih hholds hcalls
      refine ⟨children, hchildren, List.forall_mem_cons.mpr ⟨hfailure, hfailures⟩, ?_⟩
      intro hstandard hcompares
      obtain ⟨hcompare, hrest⟩ := List.forall_mem_cons.mp hcompares
      have hlater := hlast hstandard hrest
      rw [hstandard, if_neg Bool.false_ne_true] at hlater
      rcases hends with hcompletes | hfails
      · exact hlater.cons_of_completes hcompletes hload
      · exact absurd hcompare hfails

end Refresher

namespace Settings

variable {st : Settings} {vars : List (Text × Text)} {d : Desk} {env : Environment}
variable {s t : Session} {calls : List Session}

/-- A boot that succeeds has installed the layers of the files that it loaded. -/
theorem exists_boot_children
    (h : ((st.buildEnvironment vars).run d).1 = .ok env) :
    ∃ bare children,
      st.bareEnvironment vars = .ok bare ∧
      ((st.source.loadLayer bare).run d).1 = .ok (fileComposite children) ∧
      Layer.everywhereIn Layer.isFaultless children = true ∧
      env.stack.layers = bootLayers vars (fileComposite children) := by
  obtain ⟨bare, hbare, hlayers, -, -⟩ := exists_bareEnvironment st vars
  have hrun : (st.buildEnvironment vars).run d =
      (.ok env, ((st.buildEnvironment vars).run d).2) := Prod.ext h rfl
  obtain ⟨start, middle, hstart, hrest⟩ := exists_run_of_bind hrun
  obtain ⟨hstarted, rfl⟩ := Prod.mk.inj hstart
  obtain rfl : bare = start := Except.ok.inj (hbare.symm.trans hstarted)
  obtain ⟨layer, loaded, hload, hinstall⟩ := exists_run_of_bind hrest
  obtain ⟨stack, installed, hstack, hpure⟩ := exists_run_of_bind hinstall
  obtain rfl : { bare with stack := stack } = env := Except.ok.inj (congrArg Prod.fst hpure)
  obtain ⟨children, rfl, hchildren⟩ := FileSource.exists_children hload
  obtain ⟨t, ht, htlayers⟩ := exists_install_bare hlayers (name_fileComposite children)
  obtain rfl : t = stack := Except.ok.inj (ht.symm.trans (congrArg Prod.fst hstack))
  exact ⟨bare, children, hbare, congrArg Prod.fst hload, hchildren, htlayers⟩

theorem exists_variable {name : Text} (h : name ∈ vars.map Prod.fst) :
    ∃ v, (variableEntries vars).get? (.str name) = some v := by
  obtain ⟨e, he, rfl⟩ := List.mem_map.mp h
  refine Option.isSome_iff_exists.mp (Table.contains_ofList_iff.mpr ?_)
  exact ⟨_, List.mem_map_of_mem he, (Value.str_beq_str _ _).trans (decide_eq_true rfl)⟩

/--
**What a process keeps over its life.**  The process boots and is refreshed any number of times,
its files edited in between; the scope accepts every refresh.  Then its layers have the names and
the order of the boot, and the two above the files are those of the boot, so that every process
variable keeps its value.  No refresh fails for the stack, and the overrides of a refresh are never
live.  The layers of the files are those that the last refresh that completed has loaded, or those
of the boot before any has, unless the files count as a standard layer or a refresh could not
compare.
-/
theorem life_after_boot
    (hboot : ((st.buildEnvironment vars).run d).1 = .ok env)
    (hs : s.environment = env) (hidle : s.refreshing = false) (publishes : Bool)
    (scope : ScopeKind) (hlife : (st.refresher publishes scope).Life s calls t)
    (hscope : ∀ u ∈ calls, (st.refresher publishes scope).ScopeAccepts u) :
    t.environment.stack.names = bootNames ∧
      t.environment.stack.layers.take 2 = env.stack.layers.take 2 ∧
      (∀ name ∈ vars.map Prod.fst, ∃ v, ∀ default,
        env.get (.str name) default = .ok v ∧ t.environment.get (.str name) default = .ok v) ∧
      (∃ boot children,
        env.stack.get? Names.applicationConfig = some (fileComposite boot) ∧
        t.environment.stack.get? Names.applicationConfig = some (fileComposite children) ∧
        (st.rules.standard.contains Names.applicationConfig = false →
          (∀ u ∈ calls, (st.refresher publishes scope).Compares u) →
            (st.refresher publishes scope).LastLoaded st.source boot calls children)) ∧
      (∀ u ∈ calls, ∀ failure,
        ((st.refresher publishes scope).refresh.runOn u).1 = .error failure →
          failure.isOfStack = false) ∧
      t.environment.stack.contains Names.refreshArgs = false := by
  obtain ⟨bare, boot, -, -, hfaultless, hlayers⟩ := exists_boot_children hboot
  have hstart : Holds vars boot s := ⟨hidle, by rw [hs, hlayers], hfaultless⟩
  obtain ⟨children, hend, hfailures, hlast⟩ := hlife.holds hstart rfl hscope
  refine ⟨hend.names_eq, ?_, fun name hname => ?_, ⟨boot, children, ?_, hend.get?_eq, hlast⟩,
    hfailures, ?_⟩
  · rw [hend.layers_eq, hlayers]
    rfl
  · obtain ⟨v, hv⟩ := exists_variable hname
    exact ⟨v, fun default => ⟨hs ▸ hstart.get_variable hv default, hend.get_variable hv default⟩⟩
  · exact hs ▸ hstart.get?_eq
  · rw [LayerStack.contains_eq_false_iff, hend.names_eq]
    decide

/-! ## Examples with one file -/

/-- A session whose file has another text. -/
def editedTo (s : Session) (text : String) : Session :=
  { s with files := (exampleDesk text).files }

/-- Whether a process boots from a file, and what it then has fulfils a test. -/
def livesTo (test : Environment → Session → Bool) : Bool :=
  match (exampleSettings.buildEnvironment [("HOME", "/")]).run (exampleDesk "x: 1") with
  | (.ok env, after) => test env (exampleSession "x: 1" env after.nextNan)
  | (.error _, _) => false

theorem exists_of_livesTo
    {test : Environment → Session → Bool} (h : livesTo test = true) :
    ∃ env nextNan,
      ((exampleSettings.buildEnvironment [("HOME", "/")]).run (exampleDesk "x: 1")).1 = .ok env ∧
      test env (exampleSession "x: 1" env nextNan) = true := by
  unfold livesTo at h
  split at h
  · rename_i env after hrun
    exact ⟨env, after.nextNan, congrArg Prod.fst hrun, h⟩
  · cases h

theorem edited_editedTo (s : Session) (text : String) : s.EditedTo (editedTo s text) :=
  ⟨rfl, rfl⟩

/-- A refresher for the file. -/
def fileRefresher : Refresher :=
  exampleSettings.refresher true .recording

theorem scopeAccepts_fileRefresher (s : Session) : fileRefresher.ScopeAccepts s :=
  fun _ _ _ => rfl

/-- After an edit that is loaded and one that breaks the file, the layers are those of the first. -/
theorem life_after_boot_example :
    ∃ env nextNan s u v,
      ((exampleSettings.buildEnvironment [("HOME", "/")]).run (exampleDesk "x: 1")).1 = .ok env ∧
      s = exampleSession "x: 1" env nextNan ∧
      u = editedTo s "x: 2" ∧ v = editedTo (fileRefresher.refresh.runOn u).2 "x: [" ∧
      (fileRefresher.refresh.runOn u).1.isOk = true ∧
      (fileRefresher.refresh.runOn v).1.isOk = false ∧
      (fileRefresher.refresh.runOn v).2.environment.stack.names = bootNames ∧
      (∃ w, (fileRefresher.refresh.runOn v).2.environment.get (.str "HOME") .null = .ok w) ∧
      ∃ boot children,
        (fileRefresher.refresh.runOn v).2.environment.stack.get? Names.applicationConfig =
          some (fileComposite children) ∧
        fileRefresher.LastLoaded exampleSettings.source boot [u, v] children := by
  have hlives : livesTo (fun _ s =>
      let u := editedTo s "x: 2"
      let v := editedTo (fileRefresher.refresh.runOn u).2 "x: ["
      (fileRefresher.refresh.runOn u).1.isOk && !(fileRefresher.refresh.runOn v).1.isOk &&
        fileRefresher.canCompare u && fileRefresher.canCompare v) = true := by
    decide +kernel
  obtain ⟨env, nextNan, hboot, htest⟩ := exists_of_livesTo hlives
  simp only [Bool.and_eq_true, Bool.not_eq_true'] at htest
  obtain ⟨⟨⟨hok, hfails⟩, hu⟩, hv⟩ := htest
  let s := exampleSession "x: 1" env nextNan
  let u := editedTo s "x: 2"
  let v := editedTo (fileRefresher.refresh.runOn u).2 "x: ["
  have hlife : fileRefresher.Life s [u, v] (fileRefresher.refresh.runOn v).2 :=
    .refresh (edited_editedTo s _) (.refresh (edited_editedTo _ _) (.done ⟨rfl, rfl⟩))
  obtain ⟨hnames, -, hvariables, ⟨boot, children, -, hchildren, hlast⟩, -, -⟩ :=
    life_after_boot hboot rfl rfl true .recording hlife fun u _ => scopeAccepts_fileRefresher u
  obtain ⟨w, hw⟩ := hvariables "HOME" (by decide)
  have hcompares : ∀ w ∈ [u, v], fileRefresher.Compares w := by
    intro w hw
    rcases List.mem_pair.mp hw with rfl | rfl
    · exact Refresher.compares_of_canCompare hu
    · exact Refresher.compares_of_canCompare hv
  exact ⟨env, nextNan, s, u, v, hboot, rfl, rfl, rfl, hok, hfails, hnames, ⟨w, (hw .null).2⟩, boot,
    children, hchildren, hlast (by decide) hcompares⟩

/-- The session with an edited file and a listener that interrupts. -/
def interruptedTo (s : Session) (text : String) : Session :=
  { editedTo s text with
    publisher := Publisher.empty.subscribe ⟨.environmentChange, "l"⟩
    listeners := Table.ofList [("l", [.fail (.raised .interrupt "stop")])] }

/-- The values in a layer, as shown. -/
def shownIn (files : Layer) : List String :=
  (Layer.entriesIn [files]).map fun e => e.2.shown

/-- The values in the layer of the files, as shown. -/
def shownValues (stack : LayerStack) : Option (List String) :=
  (stack.get? Names.applicationConfig).map shownIn

/-- The text of the interruption that an action ended with. -/
def interruption? {α : Type} : Except Failure α → Option Text
  | .error (.raised .interrupt text) => some text
  | _ => none

theorem eq_error_of_interruption?
    {α : Type} {outcome : Except Failure α} {text : Text} (h : interruption? outcome = some text) :
    outcome = .error (.raised .interrupt text) := by
  unfold interruption? at h
  split at h
  · obtain rfl := Option.some.inj h
    rfl
  · cases h

/-- A refresh that a listener interrupts does not succeed, and yet its files are live. -/
theorem interrupted_refresh_keeps_files :
    ∃ env nextNan s u,
      ((exampleSettings.buildEnvironment [("HOME", "/")]).run (exampleDesk "x: 1")).1 = .ok env ∧
      s = exampleSession "x: 1" env nextNan ∧ u = interruptedTo s "x: 2" ∧
      fileRefresher.Life s [u] (fileRefresher.refresh.runOn u).2 ∧
      fileRefresher.rules.standard.contains Names.applicationConfig = false ∧
      fileRefresher.ScopeAccepts u ∧ fileRefresher.Compares u ∧
      (fileRefresher.refresh.runOn u).1 = .error (.raised .interrupt "stop") ∧
      env.stack.get? Names.applicationConfig ≠
        (fileRefresher.refresh.runOn u).2.environment.stack.get? Names.applicationConfig := by
  have hlives : livesTo (fun env s =>
      let u := interruptedTo s "x: 2"
      decide (interruption? (fileRefresher.refresh.runOn u).1 = some "stop" ∧
        shownValues env.stack = some ["1"] ∧
        shownValues (fileRefresher.refresh.runOn u).2.environment.stack = some ["2"]) &&
          fileRefresher.canCompare u) = true := by
    decide +kernel
  obtain ⟨env, nextNan, hboot, htest⟩ := exists_of_livesTo hlives
  obtain ⟨hdecided, hcompare⟩ := (Bool.and_eq_true _ _).mp htest
  obtain ⟨houtcome, hbefore, hafter⟩ := of_decide_eq_true hdecided
  let s := exampleSession "x: 1" env nextNan
  let u := interruptedTo s "x: 2"
  have hlife : fileRefresher.Life s [u] (fileRefresher.refresh.runOn u).2 :=
    .refresh ⟨rfl, rfl⟩ (.done ⟨rfl, rfl⟩)
  refine ⟨env, nextNan, s, u, hboot, rfl, rfl, hlife, by decide, scopeAccepts_fileRefresher u,
    Refresher.compares_of_canCompare hcompare, eq_error_of_interruption? houtcome,
    fun hsame => ?_⟩
  have hvalues := congrArg (Option.map shownIn) hsame
  rw [shownValues] at hbefore hafter
  rw [hbefore, hafter] at hvalues
  simp at hvalues

end Settings

end LiveConfig
