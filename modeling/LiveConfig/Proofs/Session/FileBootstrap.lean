import LiveConfig.Proofs.File.Failing
import LiveConfig.Proofs.Session.Boot

/-!
# Bootstraps from files

A bootstrap from files tracks two handles, builds a working environment from its request, loads the
layer of all files in it, and installs this layer there.  The working environment is a list of its
own, so the live one stays as it is.

Installing a layer and merging it as the only one are written apart; both put it where `place` says,
so they agree on every list of distinct names.

**Results.**
* `LayerStack.exists_install`, `exists_merge_single`: both routines are `place`.
* `BootstrapRequest.exists_toEnvironment`: every request has a working environment.
* `FileSource.bootstrap_installs`: what a bootstrap from files does, whether it succeeds or not.
-/

namespace LiveConfig

/-! ## Installing one layer -/

namespace MergeRules

/-- Rules under which no layer is standard. -/
def noStandard : MergeRules :=
  ⟨[], Names.defaultProperties⟩

end MergeRules

theorem LayerStack.install_of_no_anchor
    {s : LayerStack} {layer : Layer} (h : layer.name ∉ s.names)
    (hanchor : (Names.defaultProperties : Text) ∉ s.names) :
    ∃ t, s.install layer = .ok t ∧ t.layers = s.layers ++ [layer] := by
  obtain ⟨t, hadd, hlayers⟩ := addLast_ok h
  refine ⟨t, ?_, hlayers⟩
  unfold install
  rw [contains_eq_false_iff.mpr h, contains_eq_false_iff.mpr hanchor]
  exact hadd

/-- Installing never fails, and puts the layer where a merge without standard layers would. -/
theorem LayerStack.exists_install (s : LayerStack) (layer : Layer) :
    ∃ t, s.install layer = .ok t ∧ t.layers = place .noStandard none s.layers layer := by
  by_cases hlive : layer.name ∈ s.names
  · rw [place_live rfl hlive]
    exact install_of_mem hlive
  · by_cases hanchor : (Names.defaultProperties : Text) ∈ s.names
    · rw [place_before rfl hlive hanchor]
      exact install_of_not_mem hlive hanchor
    · rw [place_last rfl hlive hanchor]
      exact install_of_no_anchor hlive hanchor

/-- A layer that is merged alone has no anchor but the default one. -/
theorem exists_merge_single (rules : MergeRules) (live : LayerStack) (layer : Layer) :
    ∃ merged report, (merge rules live [layer]).outcome = .ok (merged, report) ∧
      merged.layers = place rules none live.layers layer := by
  obtain ⟨m, hstep, hlayers, -, -⟩ :=
    Merging.step_ok rules (m := Merging.start live) (fun _ h => nomatch h) layer
  have hsteps : ((Merging.start live).steps rules [layer]).outcome = .ok m :=
    Traced.outcome_bind_of_ok hstep
  exact ⟨m.live, m.report, outcome_merge hsteps, hlayers⟩

/--
A list with a layer put into it: in the place of its namesake, or else right above the catch-all
layer, or else last.
-/
inductive Installed (layer : Layer) : List Layer → List Layer → Prop
  | replaced {before after : List Layer} {old : Layer} :
    Layer.SplitsAt layer.name before old after →
      Installed layer (before ++ old :: after) (before ++ layer :: after)
  | aboveDefaults {before after : List Layer} {anchor : Layer} :
    layer.name ∉ (before ++ anchor :: after).map Layer.name →
      Layer.SplitsAt Names.defaultProperties before anchor after →
        Installed layer (before ++ anchor :: after) (before ++ layer :: anchor :: after)
  | last {layers : List Layer} :
    layer.name ∉ layers.map Layer.name → (Names.defaultProperties : Text) ∉ layers.map Layer.name →
      Installed layer layers (layers ++ [layer])

theorem installed_place (s : LayerStack) (layer : Layer) :
    Installed layer s.layers (place .noStandard none s.layers layer) := by
  by_cases hlive : layer.name ∈ s.names
  · obtain ⟨before, old, after, hsplit, hcut, -⟩ := s.exists_split hlive
    rw [place_live rfl hlive, hsplit, Layer.substitute_split hcut]
    exact .replaced hcut
  · by_cases hanchor : (Names.defaultProperties : Text) ∈ s.names
    · obtain ⟨before, anchor, after, hsplit, hcut, -⟩ := s.exists_split hanchor
      rw [place_before rfl hlive hanchor, hsplit]
      rw [LayerStack.names, hsplit] at hlive
      exact Layer.insertBefore_split hcut ▸ .aboveDefaults hlive hcut
    · rw [place_last rfl hlive hanchor]
      exact .last hlive hanchor

/-- All other layers stay as they are, in their order. -/
theorem Installed.others_eq
    {layer : Layer} {layers result : List Layer} (h : Installed layer layers result) :
    (result.filter fun l => l.name != layer.name) =
      layers.filter fun l => l.name != layer.name := by
  cases h with
  | replaced hcut =>
    rw [Layer.filter_ne_split hcut, Layer.filter_ne_split ⟨rfl, hcut.before_ne, hcut.after_ne⟩]
  | aboveDefaults hnew hcut => simp
  | last hnew hanchor => simp

/-! ## The working environment -/

/-- Every request made from an environment has a working one, whatever the overrides are named. -/
theorem BootstrapRequest.exists_toEnvironment (env : Environment) (overrides : Layer) :
    ∃ work, (ofEnvironment env overrides).toEnvironment = .ok work ∧
      work.stack.layers =
        overrides :: env.stack.layers.filter (fun layer => layer.name != overrides.name) ∧
      work.active = env.active ∧ work.defaults = env.defaults := by
  have hdistinct : ((ofEnvironment env overrides).workLayers.map Layer.name).Nodup := by
    refine List.nodup_cons.mpr ⟨fun hmem => ?_, ?_⟩
    · obtain ⟨layer, hlayer, hname⟩ := List.mem_map.mp hmem
      exact bne_iff_ne.mp (List.mem_filter.mp hlayer).2 hname
    · exact env.stack.names_nodup.sublist (List.filter_sublist.map Layer.name)
  obtain ⟨stack, hstack, hlayers⟩ := LayerStack.exists_ofList hdistinct
  refine ⟨⟨stack, env.active, env.defaults⟩, ?_, hlayers, rfl, rfl⟩
  unfold toEnvironment
  rw [hstack]
  rfl

/-! ## A bootstrap -/

namespace FileSource

/-- The handles that are tracked after two more, the second below the first. -/
structure TracksTwo (t after : Tracking) : Prop where
  handles_eq : after.handles.handles = t.handles.handles ++
    [Handle.make "bootstrap" none [],
      Handle.make "application" (some t.handles.handles.length) []]
  tracked_eq : after.tracked = t.tracked ++ [t.handles.handles.length, t.handles.handles.length + 1]
  history_eq : after.handles.history = t.handles.history
  journal_eq : after.handles.journal = t.handles.journal

theorem tracksTwo_trackHandles (t : Tracking) : TracksTwo t (trackHandles t).1 := by
  constructor
  · exact List.append_assoc _ _ _
  · simp [trackHandles, Tracking.track, Handles.push]
  · rfl
  · rfl

theorem snd_trackHandles (t : Tracking) :
    (trackHandles t).2 = t.handles.handles.length + 1 := by
  simp [trackHandles, Tracking.track, Handles.push]

/-- Only reading the keys of the search can make loading fail for a stack of layers. -/
theorem exists_of_loadLayer
    {source : FileSource} {env : Environment} {d : Desk} {failure : Failure}
    (h : ((source.loadLayer env).run d).1 = .error failure) (hstack : failure.isOfStack = true) :
    ∃ key ∈ searchKeys, env.get (.str key) .null = .error failure := by
  let kind (failure : Failure) : Prop :=
    failure.isOfStack = true → ∃ key ∈ searchKeys, env.get (.str key) .null = .error failure
  have hstops (failure : Failure) (hfailure : failure.StopsLoading) : kind failure := by
    intro hofStack
    rw [hfailure.isOfStack] at hofStack
    cases hofStack
  have hget : ∀ key ∈ searchKeys, FailsWith kind (env.get (.str key) .null) :=
    fun key hkey failure hfailure _ => ⟨key, hkey, hfailure⟩
  exact source.failsWith_loadLayer_of_get hstops hget d failure h hstack

/-- The result of a bootstrap has the layer of all files where a merge of it alone would put it. -/
structure HasInstalled (work : Environment) (files : Layer) (result : BootstrapResult) : Prop where
  merge_eq : ∃ merged report,
    (merge .noStandard work.stack [files]).outcome = .ok (merged, report) ∧
    result.environment.stack.layers = merged.layers
  installed : Installed files work.stack.layers result.environment.stack.layers
  others_eq : (result.environment.stack.layers.filter fun l => l.name != files.name) =
    work.stack.layers.filter fun l => l.name != files.name
  active_eq : result.environment.active = work.active
  defaults_eq : result.environment.defaults = work.defaults

theorem hasInstalled
    {work : Environment} {files : Layer} {stack : LayerStack}
    (h : work.stack.install files = .ok stack) (context : Option Nat) :
    HasInstalled work files ⟨{ work with stack := stack }, context⟩ := by
  obtain ⟨t, ht, hlayers⟩ := work.stack.exists_install files
  obtain rfl : t = stack := Except.ok.inj (ht.symm.trans h)
  obtain ⟨merged, report, hmerge, hmerged⟩ := exists_merge_single .noStandard work.stack files
  have hinstalled : Installed files work.stack.layers t.layers :=
    hlayers ▸ installed_place work.stack files
  exact ⟨⟨merged, report, hmerge, hlayers.trans hmerged.symm⟩, hinstalled, hinstalled.others_eq,
    rfl, rfl⟩

/--
**A bootstrap from files is safe for every request and installs one layer.**  Let a request be made
from an environment, with overrides of any name.  Whether or not loading fails, the bootstrap tracks
two new handles, one the parent of the other, and leaves of the session all but its files, the next
number and what it has logged.  The working environment has the overrides on top of the live layers
of other names.  If loading the files there fails, the bootstrap fails with the same failure, which
is one of a stack of layers only if reading a key of the search has failed with it.  Otherwise the
bootstrap succeeds, and its layers are those of the working environment after a merge of the layer
of all files alone without standard layers: this layer takes the place of its namesake, or else
stands right above the catch-all layer, or else last, and nothing else has changed.
-/
theorem bootstrap_installs
    (source : FileSource) (t : Tracking) (env : Environment) (overrides : Layer) (s : Session) :
    ∃ attempt after work,
      source.bootstrapWith t (.ofEnvironment env overrides) s = (attempt, after) ∧
      TracksTwo t attempt.tracking ∧
      after = { s with files := after.files, nextNan := after.nextNan, journal := after.journal } ∧
      (BootstrapRequest.ofEnvironment env overrides).toEnvironment = .ok work ∧
      work.stack.layers =
        overrides :: env.stack.layers.filter (fun layer => layer.name != overrides.name) ∧
      work.active = env.active ∧ work.defaults = env.defaults ∧
      match ((source.loadLayer work).run ⟨s.files, [], s.nextNan⟩).1 with
      | .error failure =>
        attempt.outcome = .error failure ∧
        (failure.isOfStack = true →
          ∃ key ∈ searchKeys, work.get (.str key) .null = .error failure)
      | .ok files =>
        files.name = Names.applicationConfig ∧
        ∃ result, attempt.outcome = .ok result ∧
          result.context = some (t.handles.handles.length + 1) ∧
          HasInstalled work files result := by
  obtain ⟨work, hwork, hlayers, hactive, hdefaults⟩ :=
    BootstrapRequest.exists_toEnvironment env overrides
  have hboot {outcome : Except Failure Environment} {last : Desk}
      (hrun : (source.buildIn (.ok work)).run ⟨s.files, [], s.nextNan⟩ = (outcome, last)) :
      source.bootstrapWith t (.ofEnvironment env overrides) s =
        (⟨(trackHandles t).1, outcome.map fun env => ⟨env, some (trackHandles t).2⟩⟩,
          { s with
            files := last.files
            nextNan := last.nextNan
            journal := s.journal.addRecords last.log }) := by
    unfold bootstrapWith
    rw [bootstrap_eq (hwork ▸ hrun) t]
  rcases hload : (source.loadLayer work).run ⟨s.files, [], s.nextNan⟩ with ⟨failure | files, last⟩
  · refine ⟨_, _, work, hboot (run_buildIn_of_error hload), tracksTwo_trackHandles t, rfl, hwork,
      hlayers, hactive, hdefaults, ?_⟩
    rw [hload]
    exact ⟨rfl, exists_of_loadLayer (congrArg Prod.fst hload)⟩
  · obtain ⟨children, rfl, -⟩ := exists_children hload
    obtain ⟨stack, hinstall, -⟩ := work.stack.exists_install (fileComposite children)
    refine ⟨_, _, work, hboot (run_buildIn_of_loaded hload hinstall), tracksTwo_trackHandles t, rfl,
      hwork, hlayers, hactive, hdefaults, ?_⟩
    rw [hload]
    exact ⟨name_fileComposite children, _, rfl, congrArg some (snd_trackHandles t),
      hasInstalled hinstall _⟩

/-- Overrides named like the catch-all layer take its place, and the files come right above them. -/
example :
    ((Settings.exampleSettings.bareEnvironment []).toOption.bind fun env =>
      let overrides := Layer.ofEntries Names.defaultProperties Table.empty
      let attempt := (Settings.exampleSettings.source.bootstrapWith Tracking.empty
        (.ofEnvironment env overrides) (Settings.exampleSession "x: 1" env 1)).1
      attempt.outcome.toOption.map fun result => result.environment.stack.names) =
    some [(Names.applicationConfig : Text), Names.defaultProperties, Names.systemProperties,
      Names.systemEnvironment] := by
  decide +kernel

end FileSource

end LiveConfig
