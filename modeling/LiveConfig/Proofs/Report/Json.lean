import LiveConfig.Proofs.Sorting.Failing
import LiveConfig.Proofs.Value.Flatten
import LiveConfig.Report.Json

/-!
# Which values have a JSON text

A value can be written as JSON unless something in it keeps it from that: a number that is too long,
a key of a kind that JSON does not have, keys that cannot be sorted, a collection that contains
itself or lies too deep.  The keys of a flat table are texts, which can always be sorted, so that
such a table has a JSON text if each of its values does.

**Results.**
* `Json.hasText_map_iff`: a map with texts for keys is written if its values are.
* `Json.hasText_list_of_texts`: a list of texts is written.
-/

namespace LiveConfig.Json

/-- A value has a JSON text at a depth. -/
def HasText (depth : Nat) (v : Value) : Prop :=
  ∃ text, write depth v = .ok text

theorem hasText_str (depth : Nat) (t : Text) : HasText depth (.str t) :=
  ⟨quoted t, rfl⟩

theorem enter_of_lt {depth : Nat} (h : depth < depthLimit) : enter depth = .ok () :=
  if_pos h

/-! ## Lists -/

theorem writeAll_eq_mapM (depth : Nat) (xs : List Value) :
    writeAll depth xs = xs.mapM (write depth) := by
  induction xs with
  | nil => rfl
  | cons x xs ih => rw [writeAll, List.mapM_cons, ih]

theorem hasText_list_of_texts {depth : Nat} (h : depth < depthLimit) (ts : List Text) :
    HasText depth (.list (ts.map .str)) := by
  have hall : ∀ v ∈ ts.map Value.str, ∃ text, write (depth + 1) v = .ok text := by
    intro v hv
    obtain ⟨t, -, rfl⟩ := List.mem_map.mp hv
    exact hasText_str (depth + 1) t
  obtain ⟨parts, hparts⟩ := exists_mapM_ok_iff.mpr hall
  refine ⟨spread "[" "]" depth parts, ?_⟩
  rw [write, enter_of_lt h, ok_bind, writeAll_eq_mapM, hparts]
  rfl

/-! ## Maps -/

theorem writeFields_eq_map (depth : Nat) (entries : List (Value × Value)) :
    writeFields depth entries = entries.map fun e => (e.1, write depth e.2) := by
  induction entries with
  | nil => rfl
  | cons e es ih => rw [writeFields, ih, List.map_cons]

/-- Texts can be sorted. -/
theorem exists_sortEntries {α : Type} {entries : List (Value × α)} (h : ∀ e ∈ entries, e.1.IsText) :
    ∃ sorted, sortEntries entries = .ok sorted ∧ sorted.Perm entries := by
  have hnever : FailsWith (fun _ => False)
      (sortBy (fun a b : Value × α => Value.precedes? a.1 b.1) entries) := by
    refine failsWith_sortBy fun a ha b hb failure hfails => ?_
    obtain ⟨s, hs⟩ := h a ha
    obtain ⟨t, ht⟩ := h b hb
    rw [hs, ht] at hfails
    cases hfails
  unfold sortEntries
  cases hsort : sortBy (fun a b : Value × α => Value.precedes? a.1 b.1) entries with
  | error failure => exact (hnever failure hsort).elim
  | ok sorted => exact ⟨sorted, rfl, perm_sortBy hsort⟩

/-- An entry under a text is written if its value is. -/
theorem exists_field_iff {e : Value × Except Failure String} (h : e.1.IsText) :
    (∃ field, (do
        let key ← keyText e.1
        return quoted key ++ ": " ++ (← e.2)) = Except.ok field) ↔
      ∃ text, e.2 = .ok text := by
  obtain ⟨key, value⟩ := e
  obtain ⟨t, rfl⟩ := h
  cases value with
  | error failure => exact iff_of_false nofun nofun
  | ok text => exact iff_of_true ⟨_, rfl⟩ ⟨text, rfl⟩

theorem hasText_map_iff
    {depth : Nat} (hdepth : depth < depthLimit) {entries : List (Value × Value)}
    (h : ∀ e ∈ entries, e.1.IsText) :
    HasText depth (.map entries) ↔ ∀ e ∈ entries, HasText (depth + 1) e.2 := by
  have hfields : ∀ e ∈ writeFields (depth + 1) entries, e.1.IsText := by
    rw [writeFields_eq_map]
    exact List.forall_mem_map.mpr h
  obtain ⟨sorted, hsorted, hperm⟩ := exists_sortEntries hfields
  have hparts : HasText depth (.map entries) ↔
      ∃ parts, writeEntries (writeFields (depth + 1) entries) = .ok parts := by
    unfold HasText
    rw [write, enter_of_lt hdepth, ok_bind]
    cases writeEntries (writeFields (depth + 1) entries) with
    | error failure => exact iff_of_false nofun nofun
    | ok parts => exact iff_of_true ⟨_, rfl⟩ ⟨parts, rfl⟩
  rw [hparts, writeEntries, hsorted, ok_bind, exists_mapM_ok_iff]
  have hwritten : (∀ e ∈ writeFields (depth + 1) entries, ∃ text, e.2 = .ok text) ↔
      ∀ e ∈ entries, HasText (depth + 1) e.2 := by
    rw [writeFields_eq_map, List.forall_mem_map]
    rfl
  rw [← hwritten]
  constructor
  · intro hall e he
    exact (exists_field_iff (hfields e he)).mp (hall e (hperm.symm.subset he))
  · intro hall e he
    exact (exists_field_iff (hfields e (hperm.subset he))).mpr (hall e (hperm.subset he))

end LiveConfig.Json
