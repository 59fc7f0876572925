import LiveConfig.Proofs.File.Loading
import LiveConfig.Proofs.Value.Leaves

/-!
# Loaded files are flat

Flattening leaves no map or list with something in it, unless one comes up again inside itself.  In
a document that has a value this happens inside of tuples only, which flattening does not take
apart.  The induction is on the steps that lead from a node to its value.

**Results.**
* `Yaml.endsInLeaves_load`: the leaves of a document are leaves.
* `isFlat_of_loadFile`: what is loaded from a file is flat.
-/

namespace LiveConfig

namespace Value

/-- Nothing comes up again inside itself but within tuples. -/
def EndsInLeaves (v : Value) : Prop :=
  ∀ l ∈ leaves v, l.2.isLeaf = true

namespace EndsInLeaves

theorem of_isLeaf {v : Value} (h : v.isLeaf = true) : v.EndsInLeaves := by
  unfold EndsInLeaves
  rw [leaves_of_isLeaf h]
  exact List.forall_mem_singleton.mpr h

theorem of_isScalar {v : Value} (h : v.isScalar = true) : v.EndsInLeaves := by
  refine of_isLeaf ?_
  cases v with
  | null | bool b | int n | float x | str s | bytes data | date d | moment m => rfl
  | list items | tuple items | map entries | set members => cases h
  | removed | flawed reason number | again form number between => cases h

theorem list {items : List Value} (h : ∀ x ∈ items, x.EndsInLeaves) :
    (Value.list items).EndsInLeaves := by
  cases items with
  | nil => exact of_isLeaf rfl
  | cons x xs =>
    intro l hl
    rw [leaves_list (List.cons_ne_nil x xs), leavesOfItems_eq] at hl
    obtain ⟨e, he, hmem⟩ := List.mem_flatMap.mp hl
    obtain ⟨l', hl', rfl⟩ := List.mem_map.mp hmem
    exact h e.1 (List.fst_mem_of_mem_zipIdx he) l' hl'

theorem ofEntries {entries : List (Value × Value)} (h : ∀ e ∈ entries, e.2.EndsInLeaves) :
    ∀ l ∈ leavesOfEntries entries, l.2.isLeaf = true := by
  intro l hl
  rw [leavesOfEntries_eq] at hl
  obtain ⟨e, he, hmem⟩ := List.mem_flatMap.mp hl
  obtain ⟨l', hl', rfl⟩ := List.mem_map.mp hmem
  exact h e he l' hl'

theorem map {entries : List (Value × Value)} (h : ∀ e ∈ entries, e.2.EndsInLeaves) :
    (Value.map entries).EndsInLeaves := by
  cases entries with
  | nil => exact of_isLeaf rfl
  | cons e es => exact ofEntries h

theorem of_map {entries : List (Value × Value)} (h : (Value.map entries).EndsInLeaves) :
    ∀ l ∈ leavesOfEntries entries, l.2.isLeaf = true := by
  cases entries with
  | nil => exact List.forall_mem_nil _
  | cons e es => exact h

end EndsInLeaves

theorem isLeaf_numberFrom (first : Nat) (v : Value) : (v.numberFrom first).isLeaf = v.isLeaf := by
  cases v with
  | map entries =>
    rw [numberFrom, numberEntriesFrom_eq_map]
    exact List.isEmpty_map
  | list items =>
    rw [numberFrom, numberAllFrom_eq_map]
    exact List.isEmpty_map
  | again form number between => cases form <;> rfl
  | _ => rfl

theorem numberFrom_ne_removed {v : Value} (first : Nat) (h : v ≠ .removed) :
    v.numberFrom first ≠ .removed := by
  cases v with
  | removed => exact absurd rfl h
  | _ => exact nofun

theorem WellMade.ne_removed {v : Value} (h : v.WellMade) : v ≠ .removed := by
  rintro rfl
  cases h with
  | scalar h => cases h

end Value

open Value (EndsInLeaves)

/-! ## The value of a document -/

namespace Yaml

namespace Build

theorem endsInLeaves_ofMembers (members : List Value) :
    (Value.ofMembers members).EndsInLeaves := by
  unfold Value.ofMembers Value.setBy
  cases Value.trailsOf? members with
  | none => exact .of_isLeaf rfl
  | some trails => exact .of_isLeaf rfl

/-- Outside of tuples no collection comes up again, by induction on the steps that are left. -/
theorem endsInLeaves_value?
    (b : Building) {n i : Nat} {v : Value} (h : value? b n [] i = some v) : v.EndsInLeaves := by
  induction n generalizing i v with
  | zero => cases h
  | succ n ih =>
    unfold value? at h
    dsimp only at h
    split at h
    · rename_i scalar hscalar
      obtain rfl := Option.some.inj h
      exact .of_isScalar scalar.2
    · split at h
      · obtain ⟨es, hes, hmade⟩ := Option.bind_eq_some_iff.mp h
        obtain ⟨made, hmapped, rfl⟩ := Option.map_eq_some_iff.mp hmade
        refine .map fun e he => ?_
        obtain ⟨e', -, hentry⟩ := exists_mem_of_mapM hmapped he
        obtain ⟨x, hx, rfl⟩ := Option.map_eq_some_iff.mp hentry
        exact ih hx
      · obtain ⟨members, -, rfl⟩ := Option.map_eq_some_iff.mp h
        exact endsInLeaves_ofMembers _
      · dsimp only [List.idxOf?, List.findIdx?_nil] at h
        split at h
        · obtain ⟨items, hitems, rfl⟩ := Option.map_eq_some_iff.mp h
          refine .list fun x hx => ?_
          obtain ⟨item, -, hitem⟩ := exists_mem_of_mapM hitems hx
          exact ih hitem
        -- in a list of pairs every item is a tuple
        · obtain ⟨items, hitems, rfl⟩ := Option.map_eq_some_iff.mp h
          refine .list fun x hx => ?_
          obtain ⟨item, -, hitem⟩ := exists_mem_of_mapM hitems hx
          obtain ⟨key, -, hrest⟩ := Option.bind_eq_some_iff.mp hitem
          obtain ⟨value, -, hpair⟩ := Option.bind_eq_some_iff.mp hrest
          obtain rfl := Option.some.inj hpair
          exact .of_isLeaf rfl
      · cases h

end Build

theorem endsInLeaves_load
    {text : List Char} {v : Value} {count : Nat} (h : load text = .ok (v, count)) :
    v.EndsInLeaves := by
  obtain rfl | ⟨b, n, i, hvalue⟩ := eq_null_or_exists_value? h
  · exact .of_isLeaf rfl
  · exact Build.endsInLeaves_value? b hvalue

end Yaml

/-! ## Flat tables -/

/--
All keys are texts, and no value is a map or a list with something in it, nor the mark of a key that
is gone.
-/
def IsFlat (t : Entries) : Prop :=
  ∀ e ∈ t.entries, e.1.IsText ∧ e.2.isLeaf = true ∧ e.2 ≠ .removed

theorem IsFlat.mapValues {t : Entries} (h : IsFlat t) (first : Nat) :
    IsFlat (t.mapValues (Value.numberFrom first)) := by
  intro e he
  obtain ⟨e', he', rfl⟩ := List.mem_map.mp he
  obtain ⟨hkey, hleaf, hremoved⟩ := h e' he'
  exact ⟨hkey, (Value.isLeaf_numberFrom first e'.2).trans hleaf,
    Value.numberFrom_ne_removed first hremoved⟩

/-- Flattening what ends in leaves makes a table of leaves. -/
theorem isLeaf_of_mem_flatten
    {entries : List (Value × Value)} {base : Text} {t : Entries}
    (h : (Value.map entries).EndsInLeaves) (ht : Value.flatten entries base = .ok t) :
    ∀ e ∈ t.entries, e.2.isLeaf = true := by
  rw [Value.flatten_eq_onePass, Value.ifWritable] at ht
  split at ht
  · obtain rfl := Except.ok.inj ht
    have hwrites : ∀ e ∈ (Value.leavesOfEntries entries).map (Value.Leaf.write base),
        True ∧ e.2.isLeaf = true := by
      intro e he
      obtain ⟨l, hl, rfl⟩ := List.mem_map.mp he
      exact ⟨trivial, h.of_map l hl⟩
    have hall := Table.forall_insertAll (p := fun _ => True) (q := fun v : Value => v.isLeaf = true)
      (t := Table.empty) (List.forall_mem_nil _) hwrites
    exact fun e he => (hall e he).2
  · cases ht

theorem isFlat_of_entriesOfDocument
    {path : FilePath} {text : List Char} {entries : Entries} {count : Nat}
    (h : entriesOfDocument path text = .ok (entries, count)) : IsFlat entries := by
  have hleaves := areLeaves_of_entriesOfDocument h
  have hflat : ∀ e ∈ entries.entries, e.2.isLeaf = true := by
    unfold entriesOfDocument at h
    split at h
    · rename_i v n hload
      obtain ⟨t, ht, heq⟩ := exists_ok_of_map h
      obtain ⟨rfl, -⟩ := Prod.mk.inj heq
      have hends := Yaml.endsInLeaves_load hload
      unfold entriesOfValue at ht
      split at ht
      · obtain rfl := Except.ok.inj ht
        exact List.forall_mem_nil _
      · exact isLeaf_of_mem_flatten hends (Value.flatten_of_flattenOnStack ht)
      · cases ht
    · cases h
    · cases h
    · split at h <;> cases h
  exact fun e he => ⟨(hleaves e he).1, hflat e he, (hleaves e he).2.ne_removed⟩

/-! ## Loading a file -/

/-- What loading a file leads to is what was read there, with its values numbered. -/
theorem fst_run_loadFile (path : FilePath) (d : Desk) :
    ((loadFile path).run d).1 =
      (readingOutcome path (d.files.read path).1 >>= entriesOfBytes path).map
        fun read => read.1.mapValues (Value.numberFrom d.nextNan) := by
  unfold loadFile
  rw [run_bind_of_ok (run_get d), run_bind_of_ok (run_set d _), run_bind]
  have hofExcept (y : Except Failure (Entries × Nat)) (d : Desk) :
      (Loading.ofExcept y).run d = (y, d) := rfl
  rw [hofExcept]
  cases readingOutcome path (d.files.read path).1 >>= entriesOfBytes path <;> rfl

theorem isFlat_of_loadFile
    {path : FilePath} {d : Desk} {entries : Entries}
    (h : ((loadFile path).run d).1 = .ok entries) : IsFlat entries := by
  rw [fst_run_loadFile] at h
  obtain ⟨⟨raw, count⟩, hread, rfl⟩ := exists_ok_of_map h
  obtain ⟨data, -, hdata⟩ := exists_ok_of_bind hread
  unfold entriesOfBytes at hdata
  split at hdata
  · cases hdata
  · exact (isFlat_of_entriesOfDocument hdata).mapValues d.nextNan

end LiveConfig
