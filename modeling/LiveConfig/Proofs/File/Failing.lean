import LiveConfig.Proofs.File.Source

/-!
# How loading files fails

Loading fails for what is wrong with the files, with their paths, or with the values that configure
the search.  Such a failure is ordinary, and it is never one of a stack of layers.

**Results.**
* `FileSource.failsWith_loadLayer_of_get`: how loading the layer of all files fails.
* `FileSource.failsWith_loadLayer`: the same for layers that can be read.
-/

namespace LiveConfig

namespace Failure

/--
Whether the failure is one of a stack of layers: a layer that is not there, that is there already,
or that would be placed relative to itself.
-/
def isOfStack : Failure → Bool
  | .unknownLayer _ | .duplicateLayer _ | .selfAnchor _ => true
  | _ => false

theorem isOrdinary_of_isOfStack {failure : Failure} (h : failure.isOfStack = true) :
    failure.isOrdinary = true := by
  unfold isOfStack at h
  split at h
  · rfl
  · rfl
  · rfl
  · cases h

/-- A failure that may stop loading: ordinary, and not one of a stack. -/
structure StopsLoading (failure : Failure) : Prop where
  isOrdinary : failure.isOrdinary = true
  isOfStack : failure.isOfStack = false

end Failure

open Failure (StopsLoading)

/-! ## The search -/

theorem Value.failsWith_written (v : Value) : FailsWith StopsLoading v.written := by
  unfold written
  split
  · exact .ok _
  · exact .error ⟨rfl, rfl⟩

theorem Value.failsWith_inFull (v : Value) : FailsWith StopsLoading v.inFull := by
  unfold inFull
  split
  · rename_i failure hunwritable
    rcases eq_of_unwritable? v hunwritable with rfl | rfl
    · exact .error ⟨rfl, rfl⟩
    · exact .error ⟨rfl, rfl⟩
  · exact .ok _

namespace FileSource

theorem failsWith_locationMembers (v : Value) : FailsWith StopsLoading (locationMembers v) := by
  unfold locationMembers
  split
  case h_7 => exact .error ⟨rfl, rfl⟩
  all_goals exact .ok _

theorem failsWith_locationOf (member : Value) : FailsWith StopsLoading (locationOf member) := by
  cases member with
  | str s => exact .ok _
  | _ => exact .error ⟨rfl, rfl⟩

theorem failsWith_locationsOf (v : Value) : FailsWith StopsLoading (locationsOf v) :=
  (failsWith_locationMembers v).bind fun _ => .mapM fun member _ => failsWith_locationOf member

theorem failsWith_locationsBy (source : FileSource) (v : Value) :
    FailsWith StopsLoading (source.locationsBy v) := by
  unfold locationsBy
  split
  · exact .ok _
  · split
    · exact .ok _
    · exact failsWith_locationsOf _
  · exact .error ⟨rfl, rfl⟩
  · exact failsWith_locationsOf _

theorem failsWith_nameBy (source : FileSource) (v : Value) :
    FailsWith StopsLoading (source.nameBy v) := by
  unfold nameBy
  split
  · exact v.failsWith_inFull
  · exact .ok _

end FileSource

theorem FileTree.failsWith_isFile (files : FileTree) (path : FilePath) :
    FailsWith StopsLoading (files.isFile path) := by
  have hfind : FailsWith StopsLoading (files.find? path) := by
    unfold find?
    split
    · exact .ok _
    · split
      · exact .ok _
      · exact .error ⟨rfl, rfl⟩
  refine hfind.bind fun found => ?_
  split <;> exact .ok _

theorem failsWith_firstFile? (files : FileTree) (paths : List FilePath) :
    FailsWith StopsLoading (firstFile? files paths) := by
  induction paths with
  | nil => exact .ok none
  | cons path paths ih =>
    refine (files.failsWith_isFile path).bind fun isFile => ?_
    split
    · exact .ok _
    · exact ih

theorem failsWith_findFrom
    (files : FileTree) (found : List FilePath) (pairs : List (Text × FilePath)) :
    FailsWith StopsLoading (findFrom files found pairs) := by
  induction pairs generalizing found with
  | nil => exact .ok found
  | cons pair pairs ih =>
    refine (failsWith_firstFile? files _).bind fun choice => ?_
    split
    · exact ih _
    · exact ih _

/-! ## Reading -/

theorem FilePath.stopsLoading_of_fault?
    {path : FilePath} {failure : Failure} (h : path.fault? = some failure) :
    failure.StopsLoading := by
  unfold fault? unusable? at h
  split at h
  · obtain rfl := Option.some.inj h
    exact ⟨rfl, rfl⟩
  · split at h
    · obtain rfl := Option.some.inj h
      exact ⟨rfl, rfl⟩
    · cases h

theorem failsWith_problem (path : FilePath) (code : SystemCode) :
    FailsWith StopsLoading (readingOutcome path (.problem code)) := by
  cases code <;> exact .error ⟨rfl, rfl⟩

theorem FileTree.failsWith_freeReading (files : FileTree) (path : FilePath) :
    FailsWith StopsLoading (readingOutcome path (files.freeReading path)) := by
  unfold freeReading
  split
  · exact .error (path.stopsLoading_of_fault? ‹_›)
  · exact failsWith_problem path _
  · exact .error ⟨rfl, rfl⟩
  · exact .ok _

theorem FileTree.failsWith_read (files : FileTree) (path : FilePath) :
    FailsWith StopsLoading (readingOutcome path (files.read path).1) := by
  unfold read
  split
  · exact files.failsWith_freeReading path
  · exact .error ⟨rfl, rfl⟩
  · exact files.failsWith_freeReading path

namespace Value

mutual

theorem failsWith_flattenInto (path : Text) (table : Entries) :
    ∀ v : Value, FailsWith StopsLoading (flattenInto path table v)
  | .map (e :: es) => (failsWith_flattenEntries path .empty (e :: es)).map
  | .list (x :: xs) => failsWith_flattenItems path 0 table (x :: xs)
  -- all else is written under its path as it is
  | .map [] | .list [] | .null | .bool _ | .int _ | .float _ | .str _ | .tuple _ | .set _
  | .bytes _ | .date _ | .moment _ | .removed | .flawed _ _ | .again _ _ _ => .ok _

theorem failsWith_flattenEntries (base : Text) (table : Entries) :
    ∀ es : List (Value × Value), FailsWith StopsLoading (flattenEntries base table es)
  | [] => .ok table
  | (key, x) :: es =>
    (failsWith_written key).map.bind fun path =>
      (failsWith_flattenInto path table x).bind fun table => failsWith_flattenEntries base table es

theorem failsWith_flattenItems (base : Text) (index : Nat) (table : Entries) :
    ∀ xs : List Value, FailsWith StopsLoading (flattenItems base index table xs)
  | [] => .ok table
  | x :: xs =>
    (failsWith_flattenInto (itemPath base index) table x).bind fun table =>
      failsWith_flattenItems base (index + 1) table xs

end

theorem failsWith_flattenOnStack (entries : List (Value × Value)) :
    FailsWith StopsLoading (flattenOnStack entries) := by
  intro failure h
  obtain ⟨step, -, hstep⟩ := flattenOnStack_eq_error_iff.mp h
  unfold FlatteningStep.failure? at hstep
  split at hstep <;> split at hstep
  all_goals cases hstep
  all_goals exact ⟨rfl, rfl⟩

end Value

theorem stopsLoading_impossibility (why : Yaml.Impossibility) : why.failure.StopsLoading := by
  cases why <;> exact ⟨rfl, rfl⟩

theorem failsWith_entriesOfValue (path : FilePath) (v : Value) :
    FailsWith StopsLoading (entriesOfValue path v) := by
  unfold entriesOfValue
  split
  · exact .ok _
  · exact Value.failsWith_flattenOnStack _
  · exact .error ⟨rfl, rfl⟩

theorem failsWith_entriesOfDocument (path : FilePath) (text : List Char) :
    FailsWith StopsLoading (entriesOfDocument path text) := by
  unfold entriesOfDocument
  split
  · exact (failsWith_entriesOfValue path _).map
  · exact .error ⟨rfl, rfl⟩
  · exact .error (stopsLoading_impossibility _)
  · split
    · exact .error ⟨rfl, rfl⟩
    · exact .error ⟨rfl, rfl⟩

theorem failsWith_entriesOfBytes (path : FilePath) (data : List UInt8) :
    FailsWith StopsLoading (entriesOfBytes path data) := by
  unfold entriesOfBytes
  split
  · exact .error ⟨rfl, rfl⟩
  · exact failsWith_entriesOfDocument path _

theorem failsWith_loadFile (path : FilePath) (d : Desk) :
    FailsWith StopsLoading ((loadFile path).run d).1 := by
  have hread : FailsWith StopsLoading
      (readingOutcome path (d.files.read path).1 >>= entriesOfBytes path) :=
    (d.files.failsWith_read path).bind (failsWith_entriesOfBytes path)
  unfold loadFile
  rw [run_bind_of_ok (run_get d), run_bind_of_ok (run_set d _)]
  exact failsWith_run_bind (fun _ => hread) (fun _ _ => .ok _) _

theorem failsWith_loadLayers (paths : List FilePath) (d : Desk) :
    FailsWith StopsLoading ((loadLayers paths).run d).1 := by
  induction paths generalizing d with
  | nil => exact .ok []
  | cons path paths ih =>
    refine failsWith_run_bind (failsWith_loadFile path) (fun entries => ?_) d
    exact failsWith_run_bind ih fun layers _ => .ok _

namespace FileSource

theorem failsWith_get
    {env : Environment} (h : Layer.everywhereIn Layer.isFaultless env.stack.layers = true)
    (key : Text) : FailsWith StopsLoading (env.get (.str key) .null) := by
  rw [Environment.get_eq_ok h]
  exact .ok _

section Search

variable (source : FileSource) {env : Environment} {kind : Failure → Prop}
variable (hstops : ∀ failure : Failure, failure.StopsLoading → kind failure)
variable (hget : ∀ key ∈ searchKeys, FailsWith kind (env.get (.str key) .null))
include hstops hget

theorem failsWith_resolveFiles (files : FileTree) :
    FailsWith kind (source.resolveFiles env files) := by
  have hlocation := hget Names.configLocationKey (by simp [searchKeys])
  have hname := hget Names.configNameKey (by simp [searchKeys])
  unfold resolveFiles
  rw [resolveLocations_eq, resolveName_eq]
  refine (hlocation.bind fun v => (source.failsWith_locationsBy v).mono hstops).bind
    fun locations => ?_
  refine (hname.bind fun v => (source.failsWith_nameBy v).mono hstops).bind fun name => ?_
  exact (failsWith_findFrom files [] _).mono hstops

/-- Besides what stops loading, only the reading of the keys of the search can fail. -/
theorem failsWith_loadLayer_of_get (d : Desk) :
    FailsWith kind ((source.loadLayer env).run d).1 := by
  unfold loadLayer
  rw [run_bind_of_ok (run_get d)]
  refine failsWith_run_bind
    (fun _ => source.failsWith_resolveFiles hstops hget d.files) (fun paths => ?_) d
  refine failsWith_run_bind (fun d => (failsWith_loadLayers paths d).mono hstops) fun children => ?_
  exact failsWith_run_bind (fun _ => .ok _) fun _ _ => .ok _

end Search

/-- In layers that can be read, loading fails for the files, the paths or the search only. -/
theorem failsWith_loadLayer
    (source : FileSource) {env : Environment}
    (h : Layer.everywhereIn Layer.isFaultless env.stack.layers = true) (d : Desk) :
    FailsWith StopsLoading ((source.loadLayer env).run d).1 :=
  source.failsWith_loadLayer_of_get (fun _ hstops => hstops) (fun key _ => failsWith_get h key) d

end FileSource

end LiveConfig
