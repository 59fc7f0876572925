import LiveConfig.Proofs.File.Source
import LiveConfig.Proofs.Stack.Again
import LiveConfig.Settings.Basic

/-!
# The layers after boot

A process boots with the layer of its files between those of the process and the catch-all layer.
A refresh puts its overrides on top of these layers and installs the layer of the files in the
place of the old one.  So the fresh layers have the names of the live ones, and a merge adds
nothing.

**Results.**
* `Settings.exists_install_bare`, `Settings.exists_install_work`: where the layer of the files
  comes to stand, at first and in a refresh.
* `Settings.exists_merged_boot`: what a refresh merges into the layers after boot.
-/

namespace LiveConfig

namespace LayerStack

variable {s : LayerStack} {layer : Layer}

theorem install_of_mem (h : layer.name ∈ s.names) :
    ∃ t, s.install layer = .ok t ∧ t.layers = Layer.substitute layer.name layer s.layers := by
  obtain ⟨t, old, hreplace, hlayers⟩ := replace_ok h
  refine ⟨t, ?_, hlayers⟩
  unfold install
  rw [contains_iff.mpr h, if_pos rfl, hreplace]
  rfl

theorem install_of_not_mem
    (h : layer.name ∉ s.names) (hanchor : (Names.defaultProperties : Text) ∈ s.names) :
    ∃ t, s.install layer = .ok t ∧
      t.layers = Layer.insertBefore Names.defaultProperties layer s.layers := by
  obtain ⟨t, hadd, hlayers⟩ := addBefore_ok hanchor h
  refine ⟨t, ?_, hlayers⟩
  unfold install
  rw [contains_eq_false_iff.mpr h, contains_iff.mpr hanchor]
  exact hadd

end LayerStack

namespace Settings

variable {st : Settings} {vars : List (Text × Text)}

/-! ## Boot -/

/-- The layers of a process before its files are loaded. -/
def bareLayers (vars : List (Text × Text)) : List Layer :=
  [Layer.ofEntries Names.systemProperties Table.empty,
    Layer.ofEntries Names.systemEnvironment (variableEntries vars),
    Layer.ofEntries Names.defaultProperties Table.empty]

/-- The layers of a process with the layer of its files. -/
def bootLayers (vars : List (Text × Text)) (files : Layer) : List Layer :=
  [Layer.ofEntries Names.systemProperties Table.empty,
    Layer.ofEntries Names.systemEnvironment (variableEntries vars),
    files,
    Layer.ofEntries Names.defaultProperties Table.empty]

/-- The names of the layers of a process with the layer of its files. -/
def bootNames : List Text :=
  [Names.systemProperties, Names.systemEnvironment, Names.applicationConfig,
    Names.defaultProperties]

theorem exists_bareEnvironment (st : Settings) (vars : List (Text × Text)) :
    ∃ bare, st.bareEnvironment vars = .ok bare ∧
      bare.stack.layers = bareLayers vars ∧ bare.active = st.active ∧
        bare.defaults = st.defaults := by
  have hdistinct :
      ((Environment.processLayers (variableEntries vars)).map Layer.name).Nodup := by
    show [(Names.systemProperties : Text), Names.systemEnvironment].Nodup
    decide
  obtain ⟨process, hprocess, hlayers⟩ := LayerStack.exists_ofList hdistinct
  have hnew : (Layer.ofEntries Names.defaultProperties Table.empty).name ∉ process.names := by
    rw [LayerStack.names, hlayers]
    show (Names.defaultProperties : Text) ∉
      [(Names.systemProperties : Text), Names.systemEnvironment]
    decide
  obtain ⟨stack, hstack, hall⟩ := LayerStack.addLast_ok hnew
  refine ⟨⟨stack, st.active, st.defaults⟩, ?_, ?_, rfl, rfl⟩
  · unfold bareEnvironment
    rw [hprocess]
    simp only [bind, Except.bind, hstack]
    rfl
  · rw [hall, hlayers]
    rfl

theorem names_bootLayers
    (vars : List (Text × Text)) {files : Layer} (h : files.name = Names.applicationConfig) :
    (bootLayers vars files).map Layer.name = bootNames := by
  show [(Names.systemProperties : Text), Names.systemEnvironment, files.name,
    Names.defaultProperties] = bootNames
  rw [h]
  rfl

/-- At first the layer of the files is put above the catch-all layer. -/
theorem exists_install_bare
    {s : LayerStack} {files : Layer} (hs : s.layers = bareLayers vars)
    (h : files.name = Names.applicationConfig) :
    ∃ t, s.install files = .ok t ∧ t.layers = bootLayers vars files := by
  have hnames : s.names =
      [(Names.systemProperties : Text), Names.systemEnvironment, Names.defaultProperties] := by
    rw [LayerStack.names, hs]
    rfl
  have hnew : files.name ∉ s.names := by
    rw [hnames, h]
    decide
  obtain ⟨t, ht, hlayers⟩ := LayerStack.install_of_not_mem hnew (by rw [hnames]; decide)
  refine ⟨t, ht, ?_⟩
  rw [hlayers, hs]
  rfl

/-! ## Refreshes -/

theorem filter_bootLayers
    (vars : List (Text × Text)) {files : Layer} (h : files.name = Names.applicationConfig) :
    ((bootLayers vars files).filter fun layer => layer.name != (Names.refreshArgs : Text)) =
      bootLayers vars files := by
  have hother : ∀ name ∈ bootNames, name ≠ Names.refreshArgs := by decide
  refine List.filter_eq_self.mpr fun layer hlayer => bne_iff_ne.mpr ?_
  refine hother layer.name ?_
  rw [← names_bootLayers vars h]
  exact List.mem_map_of_mem hlayer

/-- The environment in which a refresh looks for files has the overrides on top. -/
theorem exists_toEnvironment
    {env : Environment} {files : Layer} (henv : env.stack.layers = bootLayers vars files)
    (h : files.name = Names.applicationConfig) :
    ∃ work,
      (BootstrapRequest.ofEnvironment env refreshOverrides).toEnvironment = .ok work ∧
      work.stack.layers = refreshOverrides :: bootLayers vars files ∧
      work.active = env.active ∧ work.defaults = env.defaults := by
  have hnames := names_bootLayers vars h
  have hkeep : (bootLayers vars files).filter (fun layer => layer.name != refreshOverrides.name) =
      bootLayers vars files := filter_bootLayers vars h
  have hdistinct : ((refreshOverrides :: bootLayers vars files).map Layer.name).Nodup := by
    rw [List.map_cons, hnames]
    decide
  obtain ⟨stack, hstack, hlayers⟩ := LayerStack.exists_ofList hdistinct
  refine ⟨⟨stack, env.active, env.defaults⟩, ?_, hlayers, rfl, rfl⟩
  unfold BootstrapRequest.toEnvironment BootstrapRequest.workLayers BootstrapRequest.ofEnvironment
  simp only [henv, hkeep, hstack]
  rfl

/-- The layer of the files read anew takes the place of the old one. -/
theorem exists_install_work
    {s : LayerStack} {old files : Layer}
    (hs : s.layers = refreshOverrides :: bootLayers vars old)
    (hold : old.name = Names.applicationConfig) (h : files.name = Names.applicationConfig) :
    ∃ t, s.install files = .ok t ∧ t.layers = refreshOverrides :: bootLayers vars files := by
  have hnames : s.names = (Names.refreshArgs : Text) :: bootNames := by
    rw [LayerStack.names, hs, List.map_cons, names_bootLayers vars hold]
    rfl
  -- the old layer of the files stands at one place, and the new one takes it
  have hcut : Layer.SplitsAt Names.applicationConfig
      (refreshOverrides :: (bootLayers vars old).take 2) old ((bootLayers vars old).drop 3) := by
    have hbefore : ∀ name ∈ [(Names.refreshArgs : Text), Names.systemProperties,
        Names.systemEnvironment], name ≠ Names.applicationConfig := by decide
    have hafter : ∀ name ∈ [(Names.defaultProperties : Text)], name ≠ Names.applicationConfig := by
      decide
    exact ⟨hold, fun l hl => hbefore l.name (List.mem_map_of_mem (f := Layer.name) hl),
      fun l hl => hafter l.name (List.mem_map_of_mem (f := Layer.name) hl)⟩
  have hmem : files.name ∈ s.names := by
    rw [hnames, h]
    decide
  obtain ⟨t, ht, hlayers⟩ := LayerStack.install_of_mem hmem
  refine ⟨t, ht, ?_⟩
  rw [hlayers, hs, h]
  exact Layer.substitute_split hcut

/-- A merge after boot leaves all layers but that of the files, which is the old one or the new. -/
theorem exists_merged_boot
    (rules : MergeRules) {live : LayerStack} {old files : Layer}
    (hlive : live.layers = bootLayers vars old) (hold : old.name = Names.applicationConfig)
    (h : files.name = Names.applicationConfig) :
    ∃ merged report,
      (merge rules live (bootLayers vars files)).outcome = .ok (merged, report) ∧
      merged.layers =
        bootLayers vars (if rules.standard.contains files.name then old else files) := by
  have hnames := names_bootLayers vars h
  have hdistinct : ((bootLayers vars files).map Layer.name).Nodup := by
    rw [hnames]
    decide
  have hall : ∀ name ∈ (bootLayers vars files).map Layer.name,
      rules.standard.contains name = false → name ∈ live.names := by
    intro name hname _
    rwa [LayerStack.names, hlive, names_bootLayers vars hold, ← hnames]
  have hself : ∀ l ∈ bootLayers vars files, current rules (bootLayers vars files) l = l := by
    intro l hl
    rw [current_eq hdistinct hl rfl, ite_self]
  have hfiles : current rules (bootLayers vars files) old =
      if rules.standard.contains files.name then old else files :=
    current_eq hdistinct (by simp [bootLayers]) (hold.trans h.symm)
  -- all names are live, so the merge only replaces
  obtain ⟨merged, hmerge, hlayers⟩ := exists_merged_of_live hall
  refine ⟨merged, _, hmerge, ?_⟩
  rw [hlayers, hlive]
  show [current _ _ _, current _ _ _, current _ _ old, current _ _ _] = _
  rw [hfiles, hself _ (by simp [bootLayers]), hself _ (by simp [bootLayers]),
    hself _ (by simp [bootLayers])]
  rfl

end Settings

end LiveConfig
