import LiveConfig.Command.Basic
import LiveConfig.Proofs.File.Flat
import LiveConfig.Proofs.Session.Life

/-!
# Files that cannot be loaded

A file is read, decoded, parsed and flattened.  Each of these steps can fail in a way of its own,
and a command reports only the failures that name a configuration file.  All others escape; they
are listed here by what was read at the path (`Escapes`), so that it can be said which bad files
are reported and which are not.

**Results.**
* `loads_or_reports_iff`: a file is loaded or reported if and only if nothing escapes.
* `Command.ending_of_meets`: how a command ends that meets a file which it cannot load.
* `Command.bad_files_reported_iff`: both together.
* `Command.undecodable_file_escapes`: a file that is no text is not reported.
-/

namespace LiveConfig

/-! ## Loading one file -/

/--
What was read at a path keeps it from being loaded, and the failure does not name a configuration
file.
-/
inductive Escapes (path : FilePath) : FileTree.Reading → Failure → Prop
  /-- The path cannot be given to the system. -/
  | unusable {failure : Failure} :
    path.fault? = some failure → Escapes path (.unusable failure) failure
  /-- The bytes are no text. -/
  | undecodable {data : List UInt8} {fault : Text.Utf8.Fault} :
    Text.Utf8.decode data = .error fault → Escapes path (.data data) (.undecodable fault)
  /-- A part of the document has no value. -/
  | impossible {data : List UInt8} {text : List Char} {why : Yaml.Impossibility} :
    Text.Utf8.decode data = .ok text → Yaml.load (unifyLineEnds text) = .error (.impossible why) →
      Escapes path (.data data) why.failure
  /-- The document is a map that contains itself. -/
  | endless {data : List UInt8} {text : List Char} :
    Text.Utf8.decode data = .ok text →
      Yaml.load (unifyLineEnds text) = .error (.endless (Value.map []).kindName) →
      Escapes path (.data data) .endless
  /-- Flattening comes to a key that is a whole number too long to be written. -/
  | longKey {data : List UInt8} {text : List Char} {entries : List (Value × Value)} {count : Nat}
    {key : Value} :
    Text.Utf8.decode data = .ok text →
      Yaml.load (unifyLineEnds text) = .ok (.map entries, count) →
      Value.FlatteningComesTo (.key key) entries → key.isWritable = false →
      Escapes path (.data data) .longNumber
  /-- Flattening comes to a value in more calls than the stack has room for. -/
  | tooDeep {data : List UInt8} {text : List Char} {entries : List (Value × Value)} {count : Nat}
    {calls : Nat} :
    Text.Utf8.decode data = .ok text →
      Yaml.load (unifyLineEnds text) = .ok (.map entries, count) →
      Value.FlatteningComesTo (.visit calls) entries → Value.flatteningRoom < calls →
      Escapes path (.data data) .endless

theorem FileTree.fault?_of_read
    {files : FileTree} {path : FilePath} {failure : Failure}
    (h : (files.read path).1 = .unusable failure) : path.fault? = some failure := by
  have hfree (h : files.freeReading path = .unusable failure) : path.fault? = some failure := by
    unfold freeReading at h
    cases hfault : path.fault? with
    | some other =>
      simp only [hfault] at h
      exact congrArg some (Reading.unusable.inj h)
    | none =>
      simp only [hfault] at h
      split at h
      · contradiction
      all_goals cases h
  unfold read at h
  split at h
  · exact hfree h
  · cases h
  · exact hfree h

namespace Escapes

variable {path : FilePath} {reading : FileTree.Reading} {failure : Failure}

/-- What escapes is neither a failure of a configuration file nor one of layers. -/
theorem isLayerFailure_eq (h : Escapes path reading failure) :
    Command.isLayerFailure failure = false := by
  cases h with
  | unusable h =>
    unfold FilePath.fault? FilePath.unusable? at h
    split at h
    · obtain rfl := Option.some.inj h
      rfl
    · split at h
      · obtain rfl := Option.some.inj h
        rfl
      · cases h
  | undecodable h => rfl
  | @impossible data text why htext h => cases why <;> rfl
  | endless htext h => rfl
  | longKey htext h hkey hlong => rfl
  | tooDeep htext h hvisit hdeep => rfl

theorem isFileFailure_eq (h : Escapes path reading failure) :
    Command.isFileFailure failure = false := by
  have hlayer := h.isLayerFailure_eq
  cases failure with
  | configFile path problem => cases hlayer
  | _ => rfl

theorem ne_configFile (h : Escapes path reading failure) (problem : FileProblem) :
    failure ≠ .configFile path.text problem := by
  rintro rfl
  cases h.isFileFailure_eq

/-- A document whose entries cannot be flattened ends loading with that failure. -/
theorem outcome_of_flattening
    {data : List UInt8} {text : List Char} {entries : List (Value × Value)} {count : Nat}
    (htext : Text.Utf8.decode data = .ok text)
    (hload : Yaml.load (unifyLineEnds text) = .ok (.map entries, count))
    (h : ∃ step, Value.FlatteningComesTo step entries ∧ step.failure? = some failure) :
    readingOutcome path (.data data) >>= entriesOfBytes path = .error failure := by
  rw [readingOutcome, ok_bind, entriesOfBytes, htext]
  simp only [entriesOfDocument, hload, entriesOfValue, Value.flattenOnStack_eq_error_iff.mpr h]
  rfl

/-- What escapes is the failure that loading ends with. -/
theorem outcome_eq (h : Escapes path reading failure) :
    readingOutcome path reading >>= entriesOfBytes path = .error failure := by
  cases h with
  | unusable h => rfl
  | undecodable h =>
    rw [readingOutcome, ok_bind, entriesOfBytes, h]
  | impossible htext h =>
    rw [readingOutcome, ok_bind, entriesOfBytes, htext]
    simp only [entriesOfDocument, h]
  | endless htext h =>
    rw [readingOutcome, ok_bind, entriesOfBytes, htext]
    simp only [entriesOfDocument, h, if_true]
  | longKey htext h hkey hlong =>
    exact outcome_of_flattening htext h ⟨_, hkey, by simp [Value.FlatteningStep.failure?, hlong]⟩
  | tooDeep htext h hvisit hdeep =>
    refine outcome_of_flattening htext h ⟨_, hvisit, ?_⟩
    simp [Value.FlatteningStep.failure?, Nat.not_le.mpr hdeep]

/-- A step at which flattening fails makes the failure escape. -/
theorem of_flattening
    {data : List UInt8} {text : List Char} {entries : List (Value × Value)} {count : Nat}
    {step : Value.FlatteningStep} (htext : Text.Utf8.decode data = .ok text)
    (hload : Yaml.load (unifyLineEnds text) = .ok (.map entries, count))
    (hstep : Value.FlatteningComesTo step entries) (hfails : step.failure? = some failure) :
    Escapes path (.data data) failure := by
  cases step with
  | key key =>
    simp only [Value.FlatteningStep.failure?] at hfails
    split at hfails
    · cases hfails
    · rename_i hlong
      obtain rfl := Option.some.inj hfails
      exact .longKey htext hload hstep (Bool.eq_false_iff.mpr hlong)
  | visit calls =>
    simp only [Value.FlatteningStep.failure?] at hfails
    split at hfails
    · cases hfails
    · rename_i hdeep
      obtain rfl := Option.some.inj hfails
      exact .tooDeep htext hload hstep (Nat.lt_of_not_le hdeep)

end Escapes

/-- A failure of a document names its file, or it escapes. -/
theorem configFile_or_escapes_of_document
    {path : FilePath} {data : List UInt8} {text : List Char} {failure : Failure}
    (htext : Text.Utf8.decode data = .ok text)
    (h : entriesOfDocument path (unifyLineEnds text) = .error failure) :
    (∃ problem, failure = .configFile path.text problem) ∨
      Escapes path (.data data) failure := by
  unfold entriesOfDocument at h
  split at h
  · rename_i v count hload
    have hvalue := eq_error_of_map h
    unfold entriesOfValue at hvalue
    split at hvalue
    · cases hvalue
    · rename_i entries
      obtain ⟨step, hstep, hfails⟩ := Value.flattenOnStack_eq_error_iff.mp hvalue
      exact .inr (Escapes.of_flattening htext hload hstep hfails)
    · exact .inl ⟨_, (Except.error.inj hvalue).symm⟩
  · exact .inl ⟨_, (Except.error.inj h).symm⟩
  · rename_i why hload
    obtain rfl := Except.error.inj h
    exact .inr (.impossible htext hload)
  · rename_i kind hload
    split at h
    · rename_i hkind
      obtain rfl := Except.error.inj h
      exact .inr (.endless htext (hkind ▸ hload))
    · exact .inl ⟨_, (Except.error.inj h).symm⟩

variable {path : FilePath} {d : Desk} {failure : Failure}

/-- A file that cannot be loaded is named by the failure, or the failure escapes. -/
theorem configFile_or_escapes (h : ((loadFile path).run d).1 = .error failure) :
    (∃ problem, failure = .configFile path.text problem) ∨
      Escapes path (d.files.read path).1 failure := by
  rw [fst_run_loadFile] at h
  have hread := eq_error_of_map h
  cases hreading : (d.files.read path).1 with
  | unusable other =>
    rw [hreading] at hread
    obtain rfl : other = failure := Except.error.inj hread
    exact .inr (.unusable (FileTree.fault?_of_read hreading))
  | problem code =>
    rw [hreading] at hread
    refine .inl ?_
    cases code <;> exact ⟨_, (Except.error.inj hread).symm⟩
  | data data =>
    rw [hreading, readingOutcome, ok_bind, entriesOfBytes] at hread
    cases htext : Text.Utf8.decode data with
    | error fault =>
      rw [htext] at hread
      obtain rfl := Except.error.inj hread
      exact .inr (.undecodable htext)
    | ok text =>
      rw [htext] at hread
      exact configFile_or_escapes_of_document htext hread

theorem Escapes.run_loadFile (h : Escapes path (d.files.read path).1 failure) :
    ((loadFile path).run d).1 = .error failure := by
  rw [fst_run_loadFile, h.outcome_eq]
  rfl

/-- A file is loaded as a flat table or named by the failure, unless some failure escapes. -/
theorem loads_or_reports_iff (path : FilePath) (d : Desk) :
    ((∃ entries, ((loadFile path).run d).1 = .ok entries ∧ IsFlat entries) ∨
      ∃ problem, ((loadFile path).run d).1 = .error (.configFile path.text problem)) ↔
    ∀ failure, ¬ Escapes path (d.files.read path).1 failure := by
  constructor
  · rintro (⟨entries, hok, -⟩ | ⟨problem, herror⟩) failure hescapes
    · rw [hescapes.run_loadFile] at hok
      cases hok
    · rw [hescapes.run_loadFile] at herror
      exact hescapes.ne_configFile problem (Except.error.inj herror)
  · intro hnone
    cases hload : ((loadFile path).run d).1 with
    | ok entries => exact .inl ⟨entries, rfl, isFlat_of_loadFile hload⟩
    | error failure =>
      rcases configFile_or_escapes hload with ⟨problem, rfl⟩ | hescapes
      · exact .inr ⟨problem, rfl⟩
      · exact absurd hescapes (hnone failure)

/-! ## Loading several files -/

/-- Of some files this one is the first that cannot be loaded, from the last desk. -/
inductive StopsAt (path : FilePath) (last : Desk) (failure : Failure) : List FilePath → Desk → Prop
  | here {rest : List FilePath} {after : Desk} :
    (loadFile path).run last = (.error failure, after) →
      StopsAt path last failure (path :: rest) last
  | later {first : FilePath} {rest : List FilePath} {d after : Desk} {entries : Entries} :
    (loadFile first).run d = (.ok entries, after) → StopsAt path last failure rest after →
      StopsAt path last failure (first :: rest) d

namespace StopsAt

variable {last : Desk} {paths : List FilePath}

theorem run_loadFile (h : StopsAt path last failure paths d) :
    ((loadFile path).run last).1 = .error failure := by
  induction h with
  | here hload => exact congrArg Prod.fst hload
  | later _ _ ih => exact ih

theorem exists_run_loadLayers (h : StopsAt path last failure paths d) :
    ∃ after, (loadLayers paths).run d = (.error failure, after) := by
  induction h with
  | here hload => exact ⟨_, run_bind_of_error hload _⟩
  | later hload _ ih =>
    obtain ⟨after, hrest⟩ := ih
    refine ⟨after, ?_⟩
    rw [loadLayers, run_bind_of_ok hload]
    exact run_bind_of_error hrest _

/-- A source that finds a file which cannot be loaded fails with it. -/
theorem exists_run_loadLayer
    {source : FileSource} {env : Environment} (h : StopsAt path last failure paths d)
    (hpaths : source.resolveFiles env d.files = .ok paths) :
    ∃ after, (source.loadLayer env).run d = (.error failure, after) := by
  obtain ⟨after, hlayers⟩ := h.exists_run_loadLayers
  refine ⟨after, ?_⟩
  have hresolve : (Loading.ofExcept (source.resolveFiles env d.files)).run d = (.ok paths, d) := by
    rw [hpaths]
    rfl
  unfold FileSource.loadLayer
  rw [run_bind_of_ok (run_get d), run_bind_of_ok hresolve]
  exact run_bind_of_error hlayers _

end StopsAt

/-! ## Commands -/

namespace Command

/-- A command meets a file that it cannot load: its path, the desk it is read from, the failure. -/
inductive Meets (path : FilePath) (last : Desk) (failure : Failure) : Work → Prop
  /-- Arguments that name no files at all are refused before. -/
  | diff {args : List Text} {old new : FilePath} {files : FileTree} (asJson : Bool) :
    comparedFiles files args = .ok (old, new) →
      StopsAt path last failure [old, new] (Desk.ofFiles files) →
      Meets path last failure (runDiff old new files asJson)
  | showAll {st : Settings} {vars : List (Text × Text)} {files : FileTree} {bare : Environment}
      {paths : List FilePath} (asJson : Bool) :
    st.bareEnvironment vars = .ok bare → st.source.resolveFiles bare files = .ok paths →
      StopsAt path last failure paths (Desk.ofFiles files) →
      Meets path last failure (runShow st vars files asJson)
  /-- The file is met while the process boots that is to be refreshed. -/
  | boot {st : Settings} {vars : List (Text × Text)} {files : FileTree} {bare : Environment}
      {paths : List FilePath} :
    st.bareEnvironment vars = .ok bare → st.source.resolveFiles bare files = .ok paths →
      StopsAt path last failure paths (Desk.ofFiles files) →
      Meets path last failure (runRefresh st vars files)
  /-- The file is met by the refresh after boot, which reads files again or other ones. -/
  | refresh {st : Settings} {vars : List (Text × Text)} {files : FileTree}
      {env work : Environment} {d : Desk} {paths : List FilePath} :
    (st.buildEnvironment vars).run (Desk.ofFiles files) = (.ok env, d) →
      (sessionOf env d).workEnvironment = .ok work →
      st.source.resolveFiles work d.files = .ok paths →
      StopsAt path last failure paths ⟨d.files, [], d.nextNan⟩ →
      Meets path last failure (runRefresh st vars files)

variable {last : Desk} {w : Work}

theorem Meets.run_loadFile (h : Meets path last failure w) :
    ((loadFile path).run last).1 = .error failure := by
  cases h with
  | diff asJson hargs hstops => exact hstops.run_loadFile
  | showAll asJson hbare hpaths hstops => exact hstops.run_loadFile
  | boot hbare hpaths hstops => exact hstops.run_loadFile
  | refresh hboot hwork hpaths hstops => exact hstops.run_loadFile

theorem exists_run_loadChanges
    {old new : FilePath} (h : StopsAt path last failure [old, new] d) :
    ∃ after, (loadChanges old new).run d = (.error failure, after) := by
  unfold loadChanges
  cases h with
  | here hload => exact ⟨_, run_bind_of_error hload _⟩
  | later hfirst hrest =>
    rw [run_bind_of_ok hfirst]
    cases hrest with
    | here hload => exact ⟨_, run_bind_of_error hload _⟩
    | later _ hnil => cases hnil

theorem exists_run_buildEnvironment
    {st : Settings} {vars : List (Text × Text)} {bare : Environment} {paths : List FilePath}
    (h : StopsAt path last failure paths d) (hbare : st.bareEnvironment vars = .ok bare)
    (hpaths : st.source.resolveFiles bare d.files = .ok paths) :
    ∃ after, (st.buildEnvironment vars).run d = (.error failure, after) := by
  obtain ⟨after, hload⟩ := h.exists_run_loadLayer hpaths
  refine ⟨after, ?_⟩
  show (st.source.buildIn (st.bareEnvironment vars)).run d = _
  rw [hbare]
  exact FileSource.run_buildIn_of_error hload

/-- A refresh after boot fails for a file that it cannot load. -/
theorem fst_run_refresh
    {st : Settings} {vars : List (Text × Text)} {files : FileTree} {env work : Environment}
    {paths : List FilePath}
    (hboot : (st.buildEnvironment vars).run (Desk.ofFiles files) = (.ok env, d))
    (hwork : (sessionOf env d).workEnvironment = .ok work)
    (hpaths : st.source.resolveFiles work d.files = .ok paths)
    (h : StopsAt path last failure paths ⟨d.files, [], d.nextNan⟩) (publishes : Bool)
    (scope : ScopeKind) :
    ((st.refresher publishes scope).refresh.runOn (sessionOf env d)).1 = .error failure := by
  obtain ⟨bare, children, -, -, hfaultless, hlayers⟩ :=
    Settings.exists_boot_children (congrArg Prod.fst hboot)
  have hholds : Holds vars children (sessionOf env d) := ⟨rfl, hlayers, hfaultless⟩
  obtain ⟨after, hload⟩ := h.exists_run_loadLayer hpaths
  have hloaded : st.source.loadedBy (sessionOf env d) = .error failure := by
    unfold FileSource.loadedBy
    rw [hwork]
    exact congrArg Prod.fst hload
  exact (hholds.refresh_of_error rfl hloaded).2.1

/-- A command that meets a bad file has printed nothing, and its end depends on the failure only. -/
theorem ending_of_meets (h : Meets path last failure w) :
    w.output = "" ∧ w.ending = endingOf isFileFailure failure := by
  have hload := h.run_loadFile
  cases h with
  | @diff args old new files asJson hargs hstops =>
    obtain ⟨after, hrun⟩ := exists_run_loadChanges hstops
    unfold runDiff
    rw [hrun]
    exact ⟨rfl, rfl⟩
  | @showAll st vars files bare paths asJson hbare hpaths hstops =>
    obtain ⟨after, hrun⟩ := exists_run_buildEnvironment hstops hbare hpaths
    unfold runShow
    rw [hrun]
    exact ⟨rfl, rfl⟩
  | @boot st vars files bare paths hbare hpaths hstops =>
    obtain ⟨after, hrun⟩ := exists_run_buildEnvironment hstops hbare hpaths
    unfold runRefresh
    rw [hrun]
    exact ⟨rfl, rfl⟩
  | @refresh st vars files env work d paths hboot hwork hpaths hstops =>
    have hrefresh := fst_run_refresh hboot hwork hpaths hstops true (.lazy true)
    have hsame : isLayerFailure failure = isFileFailure failure := by
      rcases configFile_or_escapes hload with ⟨problem, rfl⟩ | hescapes
      · rfl
      · rw [hescapes.isLayerFailure_eq, hescapes.isFileFailure_eq]
    unfold runRefresh
    rw [hboot]
    rcases hrun : (st.refresher true (.lazy true)).refresh.run (sessionOf env d) with ⟨outcome, t⟩
    obtain rfl : outcome = .error failure := (congrArg Prod.fst hrun).symm.trans hrefresh
    simp only [hrun, endingOf, hsame]
    exact ⟨rfl, rfl⟩

/--
**Bad files are reported unless a failure escapes.**  Whatever is at a path, loading it gives a flat
table of texts to leaves, or fails with a failure that names the path as a configuration file, if
and only if nothing escapes; what escapes is the failure of loading.  A command that meets a file
which it cannot load prints nothing and exits with status one.  It reports the file if nothing
escapes, and otherwise ends with the failure that does.
-/
theorem bad_files_reported_iff (path : FilePath) :
    (∀ d : Desk,
      ((∃ entries, ((loadFile path).run d).1 = .ok entries ∧ IsFlat entries) ∨
        ∃ problem, ((loadFile path).run d).1 = .error (.configFile path.text problem)) ↔
      ∀ failure, ¬ Escapes path (d.files.read path).1 failure) ∧
    (∀ (d : Desk) (failure : Failure), Escapes path (d.files.read path).1 failure →
      ((loadFile path).run d).1 = .error failure ∧ isFileFailure failure = false) ∧
    ∀ last failure w, Meets path last failure w →
      w.output = "" ∧ (∀ level, (w.toRun level).status = 1) ∧
      ((∃ problem, w.ending = .reported (.configFile path.text problem)) ↔
        ∀ failure, ¬ Escapes path (last.files.read path).1 failure) ∧
      ∀ failure, Escapes path (last.files.read path).1 failure → w.ending = .unhandled failure := by
  refine ⟨loads_or_reports_iff path, fun d failure h => ⟨h.run_loadFile, h.isFileFailure_eq⟩, ?_⟩
  intro last failure w h
  obtain ⟨houtput, hending⟩ := ending_of_meets h
  have hload := h.run_loadFile
  have hescapes (other : Failure) (hother : Escapes path (last.files.read path).1 other) :
      w.ending = .unhandled other := by
    obtain rfl : other = failure := Except.error.inj (hother.run_loadFile.symm.trans hload)
    rw [hending, endingOf, hother.isFileFailure_eq]
    rfl
  refine ⟨houtput, fun level => ?_, ⟨?_, fun hnone => ?_⟩, hescapes⟩
  · show Run.status ⟨w.output, _, w.ending⟩ = 1
    rw [hending, endingOf]
    split <;> rfl
  · rintro ⟨problem, hreported⟩ other hother
    rw [hescapes other hother] at hreported
    cases hreported
  · rcases configFile_or_escapes hload with ⟨problem, rfl⟩ | hother
    · exact ⟨problem, hending⟩
    · exact absurd hother (hnone failure)

/-! ## Examples with one file -/

/-- The working directory with one file of some bytes in it. -/
def oneFile (data : List UInt8) : FileTree :=
  ⟨Table.ofList [(⟨"", [String.utf8EncodeChar 'a']⟩, .file data)], Table.empty⟩

/-- The path of that file. -/
def onePath : FilePath :=
  ⟨"", ["a"]⟩

/-- A file with a text in place of a map is reported. -/
theorem bad_files_reported_iff_text :
    ∃ last failure,
      Meets onePath last failure (runDiff onePath onePath (oneFile [0x78]) false) ∧
      ∃ problem, (runDiff onePath onePath (oneFile [0x78]) false).ending =
        .reported (.configFile onePath.text problem) := by
  have hargs : comparedFiles (oneFile [0x78]) ["a", "a"] = .ok (onePath, onePath) := rfl
  have hreports : (match ((loadFile onePath).run (Desk.ofFiles (oneFile [0x78]))).1 with
      | .ok _ => false
      | .error failure => isFileFailure failure) = true := by
    decide +kernel
  rcases hload : (loadFile onePath).run (Desk.ofFiles (oneFile [0x78])) with
    ⟨failure | entries, after⟩
  · rw [hload] at hreports
    have hmeets := Meets.diff false hargs (.here hload)
    obtain ⟨-, hescapes, hcommands⟩ := bad_files_reported_iff onePath
    obtain ⟨-, -, hreported, -⟩ := hcommands _ _ _ hmeets
    refine ⟨_, _, hmeets, hreported.mpr fun other hother => ?_⟩
    obtain ⟨hfails, hunreported⟩ := hescapes _ other hother
    obtain rfl := Except.error.inj ((congrArg Prod.fst hload).symm.trans hfails)
    exact Bool.false_ne_true (hunreported.symm.trans hreports)
  · rw [hload] at hreports
    cases hreports

/-- A file whose bytes are no text is neither loaded nor reported. -/
theorem undecodable_file_escapes :
    (¬ ∃ entries, ((loadFile onePath).run (Desk.ofFiles (oneFile [0xff]))).1 = .ok entries) ∧
      (¬ ∃ problem, ((loadFile onePath).run (Desk.ofFiles (oneFile [0xff]))).1 =
        .error (.configFile onePath.text problem)) ∧
      (runDiff onePath onePath (oneFile [0xff]) false).ending =
        .unhandled (.undecodable ⟨.invalidStart, 0xff, 0, 1⟩) := by
  have hload : ((loadFile onePath).run (Desk.ofFiles (oneFile [0xff]))).1 =
      .error (.undecodable ⟨.invalidStart, 0xff, 0, 1⟩) := rfl
  refine ⟨?_, ?_, rfl⟩
  · rintro ⟨entries, hok⟩
    rw [hload] at hok
    cases hok
  · rintro ⟨problem, herror⟩
    rw [hload] at herror
    cases herror

end Command

end LiveConfig
