import LiveConfig.Proofs.Layer.Tree

/-!
# A snapshot is a first match

`extract` writes layers from the last to the first into one table, and stops a composite where it
fails.  Here the table is compared with a search that runs the other way, from the first layer to
the last, over the readable part of the layers.

The induction runs over the trees, for any table that is written into; what it carries is what a
piece of extraction wrote and whether it stopped (`Wrote`).

**Results.**
* `wrote_writeInto`, `wrote_writeAllInto`, `wrote_writeTops`: every part of an extraction writes the
  tables of the pruned layers, and only an unreadable mapping stops it.
* `extract_firstMatch`: a snapshot is made of the first entries of the pruned layers, in the order
  in which their keys come up from the last mapping to the first.
-/

namespace LiveConfig

namespace Layer

/-! ## Writing several tables -/

/-- Tables written one after another into a snapshot, the last one first. -/
def writeTables (ts : List Entries) (snapshot : Entries) : Entries :=
  ts.foldr (fun t written => written.update t) snapshot

theorem writeTables_append
    (ts us : List Entries) (snapshot : Entries) :
    writeTables (ts ++ us) snapshot = writeTables ts (writeTables us snapshot) :=
  List.foldr_append

/-- The first entry counts, and after all entries what was there before. -/
theorem get?_writeTables
    (ts : List Entries) (snapshot : Entries) (key : Value) :
    (writeTables ts snapshot).get? key =
      (firstValue? key (ts.flatMap Table.entries)).or (snapshot.get? key) := by
  induction ts with
  | nil => rfl
  | cons t ts ih =>
    have hhead : writeTables (t :: ts) snapshot = (writeTables ts snapshot).update t := rfl
    rw [hhead, Table.get?_update, ih, List.flatMap_cons, firstValue?_append, Option.or_assoc]
    rfl

theorem writeTables_eq_insertAll
    (ts : List Entries) (snapshot : Entries) :
    writeTables ts snapshot = snapshot.insertAll (ts.reverse.flatMap Table.entries) := by
  induction ts with
  | nil => rfl
  | cons t ts ih =>
    have hhead : writeTables (t :: ts) snapshot = (writeTables ts snapshot).update t := rfl
    rw [hhead, ih, List.reverse_cons, List.flatMap_append]
    simp [Table.update, Table.insertAll, List.foldl_append]

/-- The keys stand in the order in which they come up from the last table to the first. -/
theorem keys_writeTables (ts : List Entries) :
    (writeTables ts Table.empty).keys = (ts.reverse.flatMap Table.keys).eraseDups := by
  rw [writeTables_eq_insertAll, Table.keys_insertAll, List.map_flatMap]
  rfl

/-! ## What a piece of extraction did -/

/-- A piece of extraction left a snapshot and stopped or not, for no other than ordinary reasons. -/
structure Wrote (x : Extraction) (snapshot : Entries) (stops : Bool) : Prop where
  snapshot_eq : x.snapshot = snapshot
  stopped_eq : x.stopped.isSome = stops
  ordinary : x.stopped.all Failure.isOrdinary = true

namespace Wrote

variable {x : Extraction} {snapshot : Entries}

theorem ofSnapshot (snapshot : Entries) :
    Wrote (Extraction.ofSnapshot snapshot) snapshot false :=
  ⟨rfl, rfl, rfl⟩

/-- An absorbed stop leaves what was written before. -/
theorem absorb
    {stops : Bool} (h : Wrote x snapshot stops) (text : Failure → Text) :
    Wrote (x.absorb text) snapshot false := by
  obtain ⟨written, stopped, log⟩ := x
  cases stopped with
  | none => exact ⟨h.snapshot_eq, rfl, rfl⟩
  | some e =>
    have hord : e.isOrdinary = true := h.ordinary
    simp only [Extraction.absorb, hord, if_true]
    exact ⟨h.snapshot_eq, rfl, rfl⟩

/-- After a stop nothing more is written. -/
theorem andThen_stopped
    (h : Wrote x snapshot true) (f : Entries → Extraction) :
    Wrote (x.andThen f) snapshot true := by
  obtain ⟨e, he⟩ := Option.isSome_iff_exists.mp h.stopped_eq
  have hx : x.andThen f = x := by simp [Extraction.andThen, he]
  rw [hx]
  exact h

/-- Without a stop the next piece goes on from what was written. -/
theorem andThen
    {f : Entries → Extraction} {snapshot' : Entries} {stops : Bool}
    (h : Wrote x snapshot false) (hf : Wrote (f snapshot) snapshot' stops) :
    Wrote (x.andThen f) snapshot' stops := by
  have hnone : x.stopped = none := by simpa using h.stopped_eq
  rw [← h.snapshot_eq] at hf
  simp only [Extraction.andThen, hnone]
  exact ⟨hf.snapshot_eq, hf.stopped_eq, hf.ordinary⟩

end Wrote

/-! ## Extraction piece by piece -/

/-- What a layer inside a composite contributes. -/
def contribution (layer : Layer) : List Entries :=
  if layer.isUnreadable then [] else layer.prune.tables

theorem wrote_writeMapping
    {name : Text} {entries : Entries} {faults : ReadFaults}
    (h : (mapping name entries faults).failsOrdinarily = true) (snapshot : Entries) :
    Wrote (writeMapping name entries faults snapshot)
      (writeTables (mapping name entries faults).contribution snapshot)
      (mapping name entries faults).isUnreadable := by
  have hun :
      (mapping name entries faults).isUnreadable =
        (mapping name entries faults).obstacle?.isSome := rfl
  unfold failsOrdinarily at h
  unfold writeMapping contribution
  rw [readAll_eq, hun]
  cases hob : (mapping name entries faults).obstacle? with
  | none => exact Wrote.ofSnapshot (snapshot.update entries)
  | some failure =>
    rw [hob] at h
    have hord : failure.isOrdinary = true := h
    simp only [hord, if_true]
    exact ⟨rfl, rfl, rfl⟩

/-- Pruned children contribute what the first child and the others do, unless one of these stops. -/
theorem tablesIn_pruneChildren_cons
    {child : Layer} {rest : List Layer}
    (hrest : rest.any isUnreadable = false) :
    tablesIn (pruneChildren (child :: rest)) =
      child.contribution ++ tablesIn (pruneChildren rest) := by
  unfold contribution
  rw [pruneChildren, List.any_cons, hrest, Bool.or_false]
  cases hchild : child.isUnreadable with
  | true => simp
  | false =>
    cases child with
    | mapping name entries faults => rfl
    | lookup name entries faults => rfl
    | composite name children fault => rfl

mutual

/-- A layer inside a composite writes what it contributes; only an unreadable mapping stops. -/
theorem wrote_writeInto :
    ∀ {layer : Layer}, layer.everywhere failsOrdinarily = true → ∀ snapshot : Entries,
      Wrote (layer.writeInto snapshot) (writeTables layer.contribution snapshot)
        layer.isUnreadable
  | mapping _ _ _, h, snapshot => wrote_writeMapping h snapshot
  | lookup _ _ _, _, snapshot => Wrote.ofSnapshot snapshot
  | composite name children fault, h, snapshot => by
    rw [everywhere, Bool.and_eq_true] at h
    obtain ⟨hself, hchildren⟩ := h
    cases fault with
    | some fault =>
      have hstop : Wrote ⟨snapshot, some fault.failure, []⟩ snapshot true :=
        ⟨rfl, rfl, hself⟩
      exact hstop.absorb _
    | none => exact (wrote_writeAllInto hchildren snapshot).absorb _

/-- Children write what their readable part holds, up to the last unreadable mapping. -/
theorem wrote_writeAllInto :
    ∀ {layers : List Layer}, everywhereIn failsOrdinarily layers = true →
      ∀ snapshot : Entries,
        Wrote (writeAllInto layers snapshot)
          (writeTables (tablesIn (pruneChildren layers)) snapshot) (layers.any isUnreadable)
  | [], _, snapshot => Wrote.ofSnapshot snapshot
  | child :: rest, h, snapshot => by
    rw [everywhereIn, Bool.and_eq_true] at h
    -- later children are written first, so a stop among them hides the child
    have ihrest := wrote_writeAllInto h.2 snapshot
    rw [writeAllInto]
    cases hrest : rest.any isUnreadable with
    | true =>
      rw [hrest] at ihrest
      have hprune : pruneChildren (child :: rest) = pruneChildren rest := by
        simp [pruneChildren, hrest]
      rw [hprune, List.any_cons, hrest, Bool.or_true]
      exact ihrest.andThen_stopped _
    | false =>
      rw [hrest] at ihrest
      rw [tablesIn_pruneChildren_cons hrest, writeTables_append, List.any_cons, hrest,
        Bool.or_false]
      exact ihrest.andThen (wrote_writeInto h.1 _)

end

/-- A top-level layer writes what it contributes and never stops. -/
theorem wrote_writeTop
    {layer : Layer} (h : layer.everywhere failsOrdinarily = true) (snapshot : Entries) :
    Wrote (layer.writeTop snapshot) (writeTables layer.contribution snapshot) false := by
  cases layer with
  | mapping name entries faults => exact (wrote_writeInto h snapshot).absorb _
  | lookup name entries faults => exact ⟨rfl, rfl, rfl⟩
  | composite name children fault => exact wrote_writeInto h snapshot

theorem tablesIn_pruneTops_cons
    (excluded : List Text) (layer : Layer) (rest : List Layer) :
    tablesIn (pruneTops excluded (layer :: rest)) =
      (if excluded.contains layer.name then [] else layer.contribution) ++
        tablesIn (pruneTops excluded rest) := by
  unfold pruneTops contribution
  rw [List.filter_cons]
  cases hex : excluded.contains layer.name with
  | true => simp
  | false =>
    cases layer with
    | mapping name entries faults =>
      cases hun : (mapping name entries faults).isUnreadable <;> simp [isLookup, tablesIn]
    | lookup name entries faults => simp [isLookup, isUnreadable, prune, tables]
    | composite name children fault => simp [isLookup, isUnreadable, tablesIn]

/-- The layers that are not excluded write what their readable part holds. -/
theorem wrote_writeTops (excluded : List Text) :
    ∀ {layers : List Layer},
      (∀ layer ∈ layers, excluded.contains layer.name = false →
        layer.everywhere failsOrdinarily = true) →
      Wrote (writeTops excluded layers Table.empty)
        (writeTables (tablesIn (pruneTops excluded layers)) Table.empty) false
  | [], _ => Wrote.ofSnapshot _
  | layer :: rest, h => by
    have ihrest := wrote_writeTops excluded fun l hl => h l (List.mem_cons_of_mem _ hl)
    rw [writeTops, tablesIn_pruneTops_cons, writeTables_append]
    refine ihrest.andThen ?_
    cases hex : excluded.contains layer.name with
    | true => exact Wrote.ofSnapshot _
    | false => exact wrote_writeTop (h layer List.mem_cons_self hex) _

end Layer

/-- A snapshot is what the readable part of the layers that are not excluded writes. -/
theorem extract_eq_writeTables
    {excluded : List Text} {layers : List Layer}
    (h : ∀ layer ∈ layers, excluded.contains layer.name = false →
      layer.everywhere Layer.failsOrdinarily = true) :
    (extract excluded layers).outcome =
      .ok (Layer.writeTables (Layer.tablesIn (Layer.pruneTops excluded layers)) Table.empty) := by
  have hw := Layer.wrote_writeTops excluded h
  have hnone : (Layer.writeTops excluded layers Table.empty).stopped = none := by
    simpa using hw.stopped_eq
  unfold extract
  simp only [hnone, hw.snapshot_eq]

/-- Where everything can be enumerated, a snapshot has the first entries of the layers themselves. -/
theorem extract_of_isEnumerable
    {excluded : List Text} {layers : List Layer}
    (h : ∀ layer ∈ Layer.outside excluded layers,
      layer.everywhere Layer.isEnumerable = true) :
    ∃ snapshot,
      (extract excluded layers).outcome = .ok snapshot ∧
      ∀ key, snapshot.get? key =
        firstValue? key (Layer.entriesIn (Layer.outside excluded layers)) := by
  refine ⟨_, extract_eq_writeTables ?_, fun key => ?_⟩
  · intro layer hlayer hex
    exact Layer.everywhere_mono (fun _ => Layer.failsOrdinarily_of_isEnumerable)
      (h layer (Layer.mem_outside.mpr ⟨hlayer, hex⟩))
  · rw [Layer.get?_writeTables, Table.get?_empty, Option.or_none, Layer.pruneTops_eq_outside h]
    rfl

/--
**A snapshot is a first match.**  If no other than ordinary failures occur, extraction succeeds.
A key is in the snapshot if and only if some mapping entry of the readable part of the layers has
an equal one; its value is that of the first such entry; and the keys stand in the order in which
they come up when the mappings are read from the last one to the first.
-/
theorem extract_firstMatch
    (excluded : List Text) (layers : List Layer)
    (h : ∀ layer ∈ layers, excluded.contains layer.name = false →
      layer.everywhere Layer.failsOrdinarily = true) :
    ∃ snapshot,
      (extract excluded layers).outcome = .ok snapshot ∧
      (∀ key, snapshot.contains key = true ↔
        ∃ e ∈ Layer.entriesIn (Layer.pruneTops excluded layers), (e.1 == key) = true) ∧
      (∀ key, snapshot.get? key =
        firstValue? key (Layer.entriesIn (Layer.pruneTops excluded layers))) ∧
      snapshot.keys =
        ((Layer.tablesIn (Layer.pruneTops excluded layers)).reverse.flatMap
          Table.keys).eraseDups := by
  have hget :
      ∀ key, (Layer.writeTables (Layer.tablesIn (Layer.pruneTops excluded layers))
          Table.empty).get? key =
        firstValue? key (Layer.entriesIn (Layer.pruneTops excluded layers)) := by
    intro key
    rw [Layer.get?_writeTables, Table.get?_empty, Option.or_none]
    rfl
  refine ⟨_, extract_eq_writeTables h, ?_, hget, Layer.keys_writeTables _⟩
  intro key
  rw [Table.contains, hget key, isSome_firstValue?]

/--
An excluded layer; a composite of a mapping, a lookup, a mapping with a key that cannot be read, a
composite that cannot be listed, and another mapping; and a mapping below it.
-/
def partlyReadable : List Layer :=
  let name (c : Char) : Text := ⟨[.char c]⟩
  let entry (c : Char) (n : Int) : Value × Value := (.str (name c), .int n)
  [.ofEntries (name 's') (Table.ofList [entry 'x' 0]),
    .ofChildren (name 'c')
      [.ofEntries (name 'a') (Table.ofList [entry 'x' 1]),
        .lookup (name 'l') (Table.ofList [entry 'z' 2]) ReadFaults.none,
        .mapping (name 'b') (Table.ofList [entry 'y' 3, entry 'x' 3])
          ⟨[(.str (name 'x'), .raised .key (name 'x'))], none⟩,
        .composite (name 'd') [.ofEntries (name 'a') (Table.ofList [entry 'x' 4])]
          (some ⟨0, .raised .system (name 'd')⟩),
        .ofEntries (name 'a') (Table.ofList [entry 'y' 5])],
    .ofEntries (name 'm') (Table.ofList [entry 'x' 6, entry 'y' 6])]

theorem extract_firstMatch_partlyReadable :
    (∀ layer ∈ partlyReadable, [⟨[.char 's']⟩].contains layer.name = false →
      layer.everywhere Layer.failsOrdinarily = true) ∧
    ∃ snapshot,
      (extract [⟨[.char 's']⟩] partlyReadable).outcome = .ok snapshot ∧
      snapshot.get? (.str ⟨[.char 'x']⟩) = some (.int 6) ∧
      snapshot.get? (.str ⟨[.char 'y']⟩) = some (.int 5) ∧
      snapshot.keys = [.str ⟨[.char 'x']⟩, .str ⟨[.char 'y']⟩] := by
  have h : ∀ layer ∈ partlyReadable, [⟨[.char 's']⟩].contains layer.name = false →
      layer.everywhere Layer.failsOrdinarily = true := by decide
  obtain ⟨snapshot, hok, -, hget, hkeys⟩ := extract_firstMatch [⟨[.char 's']⟩] partlyReadable h
  exact ⟨h, snapshot, hok, hget _, hget _, hkeys⟩

end LiveConfig
