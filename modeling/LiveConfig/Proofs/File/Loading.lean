import LiveConfig.Bootstrap.Files
import LiveConfig.Proofs.Layer.Lookup
import LiveConfig.Proofs.Value.Depth
import LiveConfig.Proofs.Value.Flatten
import LiveConfig.Proofs.Yaml.Document

/-!
# What loading files depends on

Where no reads are limited, reading leaves the files as they are, and what is read depends on
nothing but the files.  What was read before shows only in the numbers of values: each file gets
its numbers from those that are left by the files before it.

**Results.**
* `FileSource.gives_buildIn`: what is built has the layers of the files, numbered from the next
  number on, and the files stay.
* `layersFrom_eq_layersFrom`: the numbers do not show where no value has one.
* `exists_firstValue?_layersFrom`: they do not decide what is found.
* `FileSource.areLeaves_of_loaded`: all that is loaded is well made.
-/

namespace LiveConfig

/-- Every path can be read any number of times. -/
def FileTree.Unlimited (files : FileTree) : Prop :=
  files.limits.entries = []

theorem FileTree.Unlimited.read_eq
    {files : FileTree} (h : files.Unlimited) (path : FilePath) :
    files.read path = (files.freeReading path, files) := by
  have hnone : files.limits.get? path.withoutDots = none := by
    unfold Table.get?
    rw [h]
    rfl
  unfold read
  rw [hnone]

/-- A file that was read: its path, its flat entries, and how many numbers it has for its values. -/
structure LoadedFile where
  path : FilePath
  entries : Entries
  count : Nat

namespace LoadedFile

/-- The layer of a file whose values are numbered from a number on. -/
def layerFrom (first : Nat) (f : LoadedFile) : Layer :=
  Layer.ofEntries (fileLayerName f.path) (f.entries.mapValues (Value.numberFrom first))

/-- Whether no value of a file has a number. -/
def IsUnnumbered (f : LoadedFile) : Prop :=
  ∀ e ∈ f.entries.entries, e.2.isUnnumbered = true

end LoadedFile

/-- What is read at a path. -/
def loadedAt (files : FileTree) (path : FilePath) : Except Failure LoadedFile :=
  (readingOutcome path (files.freeReading path) >>= entriesOfBytes path).map
    fun read => ⟨path, read.1, read.2⟩

/-- The layers of files, numbered from a number on. -/
def layersFrom : Nat → List LoadedFile → List Layer
  | _, [] => []
  | first, f :: rest => f.layerFrom first :: layersFrom (first + f.count) rest

/-- The layer of all configuration files, numbered from a number on. -/
def compositeFrom (first : Nat) (fs : List LoadedFile) : Layer :=
  Layer.ofChildren Names.applicationConfig (layersFrom first fs)

theorem entriesIn_compositeFrom (first : Nat) (fs : List LoadedFile) :
    Layer.entriesIn [compositeFrom first fs] = Layer.entriesIn (layersFrom first fs) := by
  simp [compositeFrom, Layer.ofChildren, Layer.entriesIn, Layer.tablesIn, Layer.tables]

theorem name_compositeFrom (first : Nat) (fs : List LoadedFile) :
    (compositeFrom first fs).name = (Names.applicationConfig : Text) := rfl

/-! ## Steps that leave the files -/

namespace Loading

variable {α β : Type}

/-- A step has an outcome and leaves the files. -/
def Gives (x : Loading α) (d : Desk) (outcome : Except Failure α) : Prop :=
  ∃ after, x.run d = (outcome, after) ∧ after.files = d.files

variable {x : Loading α} {f : α → Loading β} {d : Desk} {outcome : Except Failure α}

theorem gives_pure (a : α) (d : Desk) : Gives (pure a) d (.ok a) :=
  ⟨d, rfl, rfl⟩

theorem gives_record (level : LogLevel) (channel : LogChannel) (text : Text) (d : Desk) :
    Gives (record level channel text) d (.ok ()) :=
  ⟨{ d with log := d.log ++ [⟨level, channel, text⟩] }, rfl, rfl⟩

theorem Gives.bind
    {g : α → Except Failure β} (h : x.Gives d outcome)
    (hf : ∀ a after, outcome = .ok a → after.files = d.files → (f a).Gives after (g a)) :
    Gives (x >>= f) d (outcome >>= g) := by
  obtain ⟨after, hrun, hfiles⟩ := h
  unfold Gives
  rw [run_bind, hrun]
  cases outcome with
  | error failure => exact ⟨after, rfl, hfiles⟩
  | ok a =>
    obtain ⟨last, hlast, hsame⟩ := hf a after rfl hfiles
    exact ⟨last, hlast, hsame.trans hfiles⟩

theorem gives_ofExcept_bind
    {y : Except Failure α} {g : α → Except Failure β} (hf : ∀ a, y = .ok a → (f a).Gives d (g a)) :
    Gives (ofExcept y >>= f) d (y >>= g) := by
  cases y with
  | error failure => exact ⟨d, rfl, rfl⟩
  | ok a => exact hf a rfl

theorem gives_get_bind
    {f : Desk → Loading β} {outcome : Except Failure β} (hf : (f d).Gives d outcome) :
    Gives (get >>= f) d outcome :=
  hf

end Loading

/-! ## Reading -/

theorem path_of_loadedAt
    {files : FileTree} {path : FilePath} {f : LoadedFile} (h : loadedAt files path = .ok f) :
    f.path = path := by
  obtain ⟨read, -, rfl⟩ := exists_ok_of_map h
  rfl

variable {d : Desk}

theorem run_loadFile (h : d.files.Unlimited) (path : FilePath) :
    (loadFile path).run d =
      match loadedAt d.files path with
      | .ok f =>
        (.ok (f.entries.mapValues (Value.numberFrom d.nextNan)),
          { d with nextNan := d.nextNan + f.count })
      | .error failure => (.error failure, d) := by
  have hofExcept (y : Except Failure (Entries × Nat)) (d : Desk) :
      (Loading.ofExcept y).run d = (y, d) := rfl
  unfold loadFile loadedAt
  simp only [run_bind, run_get, run_set, run_modify, run_pure, hofExcept, h.read_eq]
  cases readingOutcome path (d.files.freeReading path) >>= entriesOfBytes path <;> rfl

/-- Files are loaded one after another, each with the numbers that those before it left. -/
theorem gives_loadLayers (h : d.files.Unlimited) (paths : List FilePath) :
    (loadLayers paths).Gives d
      (paths.mapM (loadedAt d.files) >>= fun fs => .ok (layersFrom d.nextNan fs)) := by
  induction paths generalizing d with
  | nil => exact Loading.gives_pure _ d
  | cons path paths ih =>
    have hfile := run_loadFile h path
    rw [List.mapM_cons]
    unfold loadLayers
    cases hread : loadedAt d.files path with
    | error failure =>
      rw [hread] at hfile
      refine ⟨d, ?_, rfl⟩
      rw [run_bind, hfile]
      rfl
    | ok f =>
      rw [hread] at hfile
      -- the rest is loaded from the desk that this file leaves behind
      have hrest := (ih (d := { d with nextNan := d.nextNan + f.count }) h).bind
        fun layers after _ _ => Loading.gives_pure (f.layerFrom d.nextNan :: layers) after
      obtain ⟨after, hrun, hfiles⟩ := hrest
      refine ⟨after, ?_, hfiles⟩
      rw [run_bind, hfile, ← path_of_loadedAt hread]
      refine hrun.trans ?_
      show ((paths.mapM (loadedAt d.files) >>= _) >>= _, after) = _
      cases paths.mapM (loadedAt d.files) <;> rfl

namespace FileSource

/-- The files that a source loads in an environment. -/
def loaded (source : FileSource) (env : Environment) (files : FileTree) :
    Except Failure (List LoadedFile) :=
  source.resolveFiles env files >>= fun paths => paths.mapM (loadedAt files)

theorem gives_loadLayer (source : FileSource) (h : d.files.Unlimited) (env : Environment) :
    (source.loadLayer env).Gives d
      (source.loaded env d.files >>= fun fs => .ok (compositeFrom d.nextNan fs)) := by
  have houtcome : (source.loaded env d.files >>= fun fs => .ok (compositeFrom d.nextNan fs)) =
      source.resolveFiles env d.files >>= fun paths =>
        (paths.mapM (loadedAt d.files) >>= fun fs =>
          .ok (layersFrom d.nextNan fs)) >>= fun layers =>
          .ok (Layer.ofChildren Names.applicationConfig layers) := by
    unfold loaded
    simp only [bind_assoc]
    rfl
  rw [houtcome]
  refine Loading.gives_get_bind (Loading.gives_ofExcept_bind fun paths _ => ?_)
  refine (gives_loadLayers h paths).bind fun layers after _ _ => ?_
  exact (Loading.gives_record _ _ _ after).bind
    (g := fun _ => .ok (Layer.ofChildren Names.applicationConfig layers))
    fun _ last _ _ => Loading.gives_pure _ last

/-- Installs the layer of all files in an environment, if there is one. -/
def buildIn (source : FileSource) (start : Except Failure Environment) : Loading Environment := do
  let env ← Loading.ofExcept start
  let layer ← source.loadLayer env
  let stack ← Loading.ofExcept (env.stack.install layer)
  return { env with stack := stack }

theorem buildEnvironment_eq (source : FileSource) (request : BootstrapRequest) :
    source.buildEnvironment request = source.buildIn request.toEnvironment := rfl

theorem run_buildIn_of_loaded
    {source : FileSource} {after : Desk} {env : Environment} {layer : Layer} {stack : LayerStack}
    (hload : (source.loadLayer env).run d = (.ok layer, after))
    (hinstall : env.stack.install layer = .ok stack) :
    (source.buildIn (.ok env)).run d = (.ok { env with stack := stack }, after) := by
  have hstart : (Loading.ofExcept (.ok env)).run d = (.ok env, d) := rfl
  unfold buildIn
  rw [run_bind_of_ok hstart, run_bind_of_ok hload, hinstall]
  rfl

theorem run_buildIn_of_error
    {source : FileSource} {after : Desk} {env : Environment} {failure : Failure}
    (hload : (source.loadLayer env).run d = (.error failure, after)) :
    (source.buildIn (.ok env)).run d = (.error failure, after) := by
  have hstart : (Loading.ofExcept (.ok env)).run d = (.ok env, d) := rfl
  unfold buildIn
  rw [run_bind_of_ok hstart, run_bind, hload]

/-- What is built has the layer of the files that are found from the start. -/
theorem gives_buildIn
    (source : FileSource) (h : d.files.Unlimited) (start : Except Failure Environment) :
    (source.buildIn start).Gives d (do
      let env ← start
      let fs ← source.loaded env d.files
      let stack ← env.stack.install (compositeFrom d.nextNan fs)
      return { env with stack := stack }) := by
  refine Loading.gives_ofExcept_bind fun env _ => ?_
  have hbuilt := (source.gives_loadLayer h env).bind
    (g := fun layer => env.stack.install layer >>= fun stack => .ok { env with stack := stack })
    fun layer after _ _ => Loading.gives_ofExcept_bind fun stack _ => Loading.gives_pure _ after
  rw [bind_assoc] at hbuilt
  exact hbuilt

end FileSource

/-! ## Numbers -/

theorem layerFrom_eq_layerFrom
    {f : LoadedFile} (h : f.IsUnnumbered) (first first' : Nat) :
    f.layerFrom first = f.layerFrom first' := by
  have hself (first : Nat) : f.entries.mapValues (Value.numberFrom first) = f.entries :=
    Table.mapValues_eq_self fun e he => Value.numberFrom_of_isUnnumbered first (h e he)
  unfold LoadedFile.layerFrom
  rw [hself first, hself first']

/-- Numbers do not show where there are none. -/
theorem layersFrom_eq_layersFrom
    {fs : List LoadedFile} (h : ∀ f ∈ fs, f.IsUnnumbered) (first first' : Nat) :
    layersFrom first fs = layersFrom first' fs := by
  induction fs generalizing first first' with
  | nil => rfl
  | cons f fs ih =>
    obtain ⟨hf, hfs⟩ := List.forall_mem_cons.mp h
    rw [layersFrom, layersFrom, layerFrom_eq_layerFrom hf first first', ih hfs]

theorem entriesIn_layersFrom_cons (first : Nat) (f : LoadedFile) (fs : List LoadedFile) :
    Layer.entriesIn (layersFrom first (f :: fs)) =
      (f.entries.entries.map fun e => (e.1, e.2.numberFrom first)) ++
        Layer.entriesIn (layersFrom (first + f.count) fs) := rfl

/-- Every entry of the layers is one of a file, with its value numbered. -/
theorem exists_of_mem_entriesIn_layersFrom
    {fs : List LoadedFile} {first : Nat} {e : Value × Value}
    (h : e ∈ Layer.entriesIn (layersFrom first fs)) :
    ∃ f ∈ fs, ∃ e' ∈ f.entries.entries, ∃ n, (e'.1, e'.2.numberFrom n) = e := by
  induction fs generalizing first with
  | nil => cases h
  | cons f fs ih =>
    rw [entriesIn_layersFrom_cons] at h
    rcases List.mem_append.mp h with hhead | hrest
    · obtain ⟨e', he', heq⟩ := List.mem_map.mp hhead
      exact ⟨f, List.mem_cons_self, e', he', first, heq⟩
    · obtain ⟨f', hf', horigin⟩ := ih hrest
      exact ⟨f', List.mem_cons_of_mem _ hf', horigin⟩

/-- Every entry of a file is in the layers, with its value numbered. -/
theorem exists_mem_entriesIn_layersFrom
    {fs : List LoadedFile} {f : LoadedFile} (hf : f ∈ fs) (first : Nat) {e : Value × Value}
    (he : e ∈ f.entries.entries) :
    ∃ n, (e.1, e.2.numberFrom n) ∈ Layer.entriesIn (layersFrom first fs) := by
  induction fs generalizing first with
  | nil => cases hf
  | cons f' fs ih =>
    rw [entriesIn_layersFrom_cons]
    rcases List.mem_cons.mp hf with rfl | hmem
    · exact ⟨first, List.mem_append_left _ (List.mem_map_of_mem he)⟩
    · obtain ⟨n, hn⟩ := ih hmem (first + f'.count)
      exact ⟨n, List.mem_append_right _ hn⟩

/-- What is found in the layers is what is found in the files, numbered. -/
theorem exists_firstValue?_layersFrom
    (key : Value) (first : Nat) (fs : List LoadedFile) :
    ∃ n, firstValue? key (Layer.entriesIn (layersFrom first fs)) =
      (firstValue? key (fs.flatMap fun f => f.entries.entries)).map (Value.numberFrom n) := by
  induction fs generalizing first with
  | nil => exact ⟨0, rfl⟩
  | cons f fs ih =>
    rw [entriesIn_layersFrom_cons, List.flatMap_cons, firstValue?_append, firstValue?_append,
      firstValue?_map]
    cases firstValue? key f.entries.entries with
    | none => simpa using ih (first + f.count)
    | some v => exact ⟨first, rfl⟩

/-! ## What is in the files -/

theorem areLeaves_of_entriesOfValue
    {path : FilePath} {v : Value} {entries : Entries} (hv : v.WellMade)
    (h : entriesOfValue path v = .ok entries) : AreLeaves entries := by
  unfold entriesOfValue at h
  split at h
  · obtain rfl := Except.ok.inj h
    exact AreLeaves.empty
  · exact Value.areLeaves_flatten hv.of_map (Value.flatten_of_flattenOnStack h)
  · cases h

theorem areLeaves_of_entriesOfDocument
    {path : FilePath} {text : List Char} {entries : Entries} {count : Nat}
    (h : entriesOfDocument path text = .ok (entries, count)) : AreLeaves entries := by
  unfold entriesOfDocument at h
  split at h
  · rename_i v n hload
    obtain ⟨leaves, hleaves, heq⟩ := exists_ok_of_map h
    obtain ⟨rfl, -⟩ := Prod.mk.inj heq
    exact areLeaves_of_entriesOfValue (Yaml.wellMade_load hload) hleaves
  · cases h
  · cases h
  · split at h <;> cases h

theorem areLeaves_of_loadedAt
    {files : FileTree} {path : FilePath} {f : LoadedFile} (h : loadedAt files path = .ok f) :
    AreLeaves f.entries := by
  obtain ⟨⟨entries, count⟩, hread, rfl⟩ := exists_ok_of_map h
  obtain ⟨data, -, hdata⟩ := exists_ok_of_bind hread
  unfold entriesOfBytes at hdata
  split at hdata
  · cases hdata
  · exact areLeaves_of_entriesOfDocument hdata

/-- Whatever a source loads consists of leaves. -/
theorem FileSource.areLeaves_of_loaded
    {source : FileSource} {env : Environment} {files : FileTree} {fs : List LoadedFile}
    (h : source.loaded env files = .ok fs) : ∀ f ∈ fs, AreLeaves f.entries := by
  intro f hf
  obtain ⟨paths, -, hpaths⟩ := exists_ok_of_bind h
  obtain ⟨path, -, hloaded⟩ := exists_mem_of_mapM_ok hpaths hf
  exact areLeaves_of_loadedAt hloaded

end LiveConfig
