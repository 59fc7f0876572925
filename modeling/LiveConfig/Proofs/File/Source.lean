import LiveConfig.Proofs.File.Loading

/-!
# What a source looks for

A source reads two keys of an environment: one for its directories, one for the base name of its
files.  So it looks for the same files wherever it finds the same under these keys, be it numbered
otherwise.

**Results.**
* `Layer.findIn?_eq_ok`: in layers without read faults a text is found as the first entry has it.
* `FileSource.sameSearch_of_found`: the same finds lead to the same search, whatever their numbers.
* `FileSource.SameSearch.loaded_eq`: the same search finds and loads the same files.
-/

namespace LiveConfig

namespace Layer

/-! ## Layers without read faults -/

/-- Whether all keys can be listed and read, and all children be listed. -/
def isFaultless : Layer → Bool
  | mapping _ _ faults => faults.keys.isEmpty && faults.listing.isNone
  | lookup _ _ _ => false
  | composite _ _ fault => fault.isNone

theorem failure?_of_isFaultless
    {name : Text} {entries : Entries} {faults : ReadFaults}
    (h : (mapping name entries faults).isFaultless = true) (key : Value) :
    faults.failure? key = none := by
  have hkeys : faults.keys = [] := List.isEmpty_iff.mp ((Bool.and_eq_true _ _).mp h).1
  unfold ReadFaults.failure?
  rw [hkeys]
  rfl

theorem isEnumerable_of_isFaultless {layer : Layer} (h : layer.isFaultless = true) :
    layer.isEnumerable = true := by
  cases layer with
  | mapping name entries faults =>
    have hlisting : faults.listing = none :=
      Option.isNone_iff_eq_none.mp ((Bool.and_eq_true _ _).mp h).2
    have hnone : (mapping name entries faults).obstacle? = none := by
      rw [obstacle?, hlisting]
      exact List.findSome?_eq_none_iff.mpr fun e _ => failure?_of_isFaultless h e.1
    simp [isEnumerable, isLookup, hnone]
  | lookup name entries faults => cases h
  | composite name children fault =>
    have hnone : fault = none := Option.isNone_iff_eq_none.mp h
    simp [isEnumerable, isLookup, obstacle?, hnone]

theorem answers_of_isFaultless {layer : Layer} (h : layer.isFaultless = true) (s : Text) :
    layer.answers (.str s) = true := by
  cases layer with
  | mapping name entries faults =>
    have hread : readKey entries faults (.str s) = .ok (entries.get? (.str s)) := by
      simp only [readKey, checkKey, Value.unkeyable?, bind, Except.bind,
        failure?_of_isFaultless h (.str s)]
    rw [answers, hread]
    rfl
  | lookup name entries faults => cases h
  | composite name children fault => rfl

/-- What is found under a text is the value of the first entry. -/
theorem findIn?_eq_ok
    {layers : List Layer} (h : everywhereIn isFaultless layers = true) (s : Text) :
    findIn? (.str s) layers = .ok (firstValue? (.str s) (entriesIn layers)) := by
  have henumerable : everywhereIn isEnumerable layers = true :=
    everywhereIn_mono (fun _ => isEnumerable_of_isFaultless) h
  have hanswers : everywhereIn (answers (.str s)) layers = true :=
    everywhereIn_mono (fun _ hlayer => answers_of_isFaultless hlayer s) h
  obtain ⟨found, hfound⟩ := findIn?_ok henumerable hanswers
  rw [hfound, findIn?_eq_firstValue? henumerable hfound]

end Layer

theorem isFaultless_layersFrom (first : Nat) (fs : List LoadedFile) :
    Layer.everywhereIn Layer.isFaultless (layersFrom first fs) = true := by
  induction fs generalizing first with
  | nil => rfl
  | cons f fs ih => exact ih (first + f.count)

theorem isFaultless_compositeFrom (first : Nat) (fs : List LoadedFile) :
    (compositeFrom first fs).everywhere Layer.isFaultless = true :=
  isFaultless_layersFrom first fs

/-- The composite of the layers of files. -/
def fileComposite (children : List Layer) : Layer :=
  Layer.ofChildren Names.applicationConfig children

theorem name_fileComposite (children : List Layer) :
    (fileComposite children).name = Names.applicationConfig := rfl

theorem everywhereIn_of_loadLayers
    {paths : List FilePath} {layers : List Layer} {d after : Desk}
    (h : (loadLayers paths).run d = (.ok layers, after)) :
    Layer.everywhereIn Layer.isFaultless layers = true := by
  induction paths generalizing layers d after with
  | nil =>
    obtain rfl : [] = layers := Except.ok.inj (congrArg Prod.fst h)
    rfl
  | cons path paths ih =>
    obtain ⟨entries, middle, -, hrest⟩ := exists_run_of_bind h
    obtain ⟨others, last, hothers, hpure⟩ := exists_run_of_bind hrest
    obtain rfl : _ :: others = layers := Except.ok.inj (congrArg Prod.fst hpure)
    show Layer.everywhereIn Layer.isFaultless others = true
    exact ih hothers

theorem Environment.get_eq_ok
    {env : Environment} (h : Layer.everywhereIn Layer.isFaultless env.stack.layers = true)
    (s : Text) :
    env.get (.str s) .null =
      .ok ((firstValue? (.str s) (Layer.entriesIn env.stack.layers)).getD .null) := by
  unfold get find?
  rw [Layer.findIn?_eq_ok h s]
  rfl

namespace FileSource

variable {source : FileSource}

/-- What is loaded is a composite of layers without read faults. -/
theorem exists_children
    {env : Environment} {layer : Layer} {d after : Desk}
    (h : (source.loadLayer env).run d = (.ok layer, after)) :
    ∃ children, layer = fileComposite children ∧
      Layer.everywhereIn Layer.isFaultless children = true := by
  obtain ⟨d', start, -, hpaths⟩ := exists_run_of_bind h
  obtain ⟨paths, found, -, hload⟩ := exists_run_of_bind hpaths
  obtain ⟨children, loaded, hchildren, hrecord⟩ := exists_run_of_bind hload
  obtain ⟨-, recorded, -, hpure⟩ := exists_run_of_bind hrecord
  obtain rfl : fileComposite children = layer := Except.ok.inj (congrArg Prod.fst hpure)
  exact ⟨children, rfl, everywhereIn_of_loadLayers hchildren⟩

/-! ## What the keys stand for -/

/-- The directories that a value stands for. -/
def locationsBy (source : FileSource) : Value → Except Failure (List FilePath)
  | .null => .ok source.locations
  | .str s => if s.isEmpty then .ok source.locations else locationsOf (.str s)
  | .flawed reason _ => .error (.incomparable reason)
  | configured => locationsOf configured

/-- The base name that a value stands for. -/
def nameBy (source : FileSource) (configured : Value) : Except Failure Text :=
  if configured.isTruthy then configured.inFull else .ok source.name

theorem resolveLocations_eq (source : FileSource) (env : Environment) :
    source.resolveLocations env =
      env.get (.str Names.configLocationKey) .null >>= source.locationsBy := by
  unfold resolveLocations
  cases env.get (.str Names.configLocationKey) .null with
  | error failure => rfl
  | ok v => cases v <;> rfl

theorem resolveName_eq (source : FileSource) (env : Environment) :
    source.resolveName env = env.get (.str Names.configNameKey) .null >>= source.nameBy := rfl

theorem locationsBy_numberFrom (n : Nat) (v : Value) :
    source.locationsBy (v.numberFrom n) = source.locationsBy v := by
  have hsame := locationsOf_numberFrom n v
  cases v with
  | null => rfl
  | str s => rfl
  | flawed reason number => rfl
  | _ => exact hsame

theorem nameBy_numberFrom (n : Nat) (v : Value) :
    source.nameBy (v.numberFrom n) = source.nameBy v := by
  unfold nameBy
  rw [Value.isTruthy_numberFrom, Value.inFull_numberFrom]

/-! ## The same search -/

/-- A source looks for the same files in two environments. -/
structure SameSearch (source : FileSource) (env env' : Environment) : Prop where
  locations_eq : source.resolveLocations env = source.resolveLocations env'
  name_eq : source.resolveName env = source.resolveName env'

/-- The keys that a source reads. -/
def searchKeys : List Text :=
  [Names.configLocationKey, Names.configNameKey]

theorem sameSearch_of_found
    {env env' : Environment}
    (h : ∀ key ∈ searchKeys, ∃ (v : Value) (n n' : Nat),
      env.get (.str key) .null = .ok (v.numberFrom n) ∧
      env'.get (.str key) .null = .ok (v.numberFrom n')) :
    source.SameSearch env env' := by
  obtain ⟨v, n, n', hv, hv'⟩ := h Names.configLocationKey (by simp [searchKeys])
  obtain ⟨w, m, m', hw, hw'⟩ := h Names.configNameKey (by simp [searchKeys])
  constructor
  · rw [resolveLocations_eq, resolveLocations_eq, hv, hv']
    exact (locationsBy_numberFrom n v).trans (locationsBy_numberFrom n' v).symm
  · rw [resolveName_eq, resolveName_eq, hw, hw']
    exact (nameBy_numberFrom m w).trans (nameBy_numberFrom m' w).symm

theorem sameSearch_of_get_eq
    {env env' : Environment}
    (h : ∀ key ∈ searchKeys, env.get (.str key) .null = env'.get (.str key) .null) :
    source.SameSearch env env' := by
  constructor
  · rw [resolveLocations_eq, resolveLocations_eq, h Names.configLocationKey (by simp [searchKeys])]
  · rw [resolveName_eq, resolveName_eq, h Names.configNameKey (by simp [searchKeys])]

namespace SameSearch

variable {env env' env'' : Environment}

theorem symm (h : source.SameSearch env env') : source.SameSearch env' env :=
  ⟨h.locations_eq.symm, h.name_eq.symm⟩

theorem trans (h : source.SameSearch env env') (h' : source.SameSearch env' env'') :
    source.SameSearch env env'' :=
  ⟨h.locations_eq.trans h'.locations_eq, h.name_eq.trans h'.name_eq⟩

theorem resolveFiles_eq
    (h : source.SameSearch env env') (hprofiles : env.effectiveProfiles = env'.effectiveProfiles)
    (files : FileTree) : source.resolveFiles env files = source.resolveFiles env' files := by
  unfold resolveFiles
  rw [h.locations_eq, h.name_eq, hprofiles]

theorem loaded_eq
    (h : source.SameSearch env env') (hprofiles : env.effectiveProfiles = env'.effectiveProfiles)
    (files : FileTree) : source.loaded env files = source.loaded env' files := by
  unfold loaded
  rw [h.resolveFiles_eq hprofiles]

end SameSearch

end FileSource

end LiveConfig
