import LiveConfig.Proofs.Failing
import LiveConfig.Proofs.Value.Equal
import LiveConfig.Value.Flatten

/-!
# The leaves of a value

Flattening takes maps and lists apart and writes what is left under its path.  So every key of the
table is a text, and every value in it is a part of the value that was flattened.

**Result.**
* `Value.areLeaves_flatten`: the leaves of well-made values are well made.
-/

namespace LiveConfig

def Value.IsText (v : Value) : Prop :=
  ∃ s, v = .str s

/-- All keys are texts, and all values are well made. -/
def AreLeaves (entries : Entries) : Prop :=
  ∀ e ∈ entries.entries, e.1.IsText ∧ e.2.WellMade

namespace AreLeaves

theorem empty : AreLeaves Table.empty :=
  List.forall_mem_nil _

theorem insert
    {entries : Entries} (h : AreLeaves entries) (path : Text) {v : Value} (hv : v.WellMade) :
    AreLeaves (entries.insert (.str path) v) :=
  forall_assign (p := Value.IsText) (q := Value.WellMade) ⟨path, rfl⟩ hv h

theorem update
    {entries more : Entries} (h : AreLeaves entries) (hmore : AreLeaves more) :
    AreLeaves (entries.update more) :=
  Table.forall_insertAll (p := Value.IsText) (q := Value.WellMade) h hmore

end AreLeaves

namespace Value

theorem WellMade.of_map
    {entries : List (Value × Value)} (h : (Value.map entries).WellMade) :
    ∀ e ∈ entries, e.2.WellMade := by
  cases h with
  | scalar h => cases h
  | map _ _ h => exact h

theorem WellMade.of_list
    {items : List Value} (h : (Value.list items).WellMade) : ∀ x ∈ items, x.WellMade := by
  cases h with
  | scalar h => cases h
  | list h => exact h

mutual

theorem areLeaves_flattenInto :
    ∀ {v : Value} {path : Text} {entries leaves : Entries}, v.WellMade → AreLeaves entries →
      flattenInto path entries v = .ok leaves → AreLeaves leaves
  | .map (e :: es), path, entries, leaves, hv, hentries, h => by
    obtain ⟨inner, hinner, rfl⟩ := exists_ok_of_map h
    exact hentries.update (areLeaves_flattenEntries hv.of_map .empty hinner)
  | .list (x :: xs), path, entries, leaves, hv, hentries, h =>
    areLeaves_flattenItems hv.of_list hentries h
  -- all else is written under its path as it is
  | .map [], _, _, _, hv, hentries, h | .list [], _, _, _, hv, hentries, h
  | .null, _, _, _, hv, hentries, h | .bool _, _, _, _, hv, hentries, h
  | .int _, _, _, _, hv, hentries, h | .float _, _, _, _, hv, hentries, h
  | .str _, _, _, _, hv, hentries, h | .tuple _, _, _, _, hv, hentries, h
  | .set _, _, _, _, hv, hentries, h | .bytes _, _, _, _, hv, hentries, h
  | .date _, _, _, _, hv, hentries, h | .moment _, _, _, _, hv, hentries, h
  | .removed, _, _, _, hv, hentries, h | .flawed _ _, _, _, _, hv, hentries, h
  | .again _ _ _, _, _, _, hv, hentries, h => by
    obtain rfl := Except.ok.inj h
    exact hentries.insert _ hv

theorem areLeaves_flattenEntries :
    ∀ {es : List (Value × Value)} {base : Text} {entries leaves : Entries},
      (∀ e ∈ es, e.2.WellMade) → AreLeaves entries →
      flattenEntries base entries es = .ok leaves → AreLeaves leaves
  | [], _, _, _, _, hentries, h => by
    obtain rfl := Except.ok.inj h
    exact hentries
  | (key, x) :: es, base, entries, leaves, hes, hentries, h => by
    obtain ⟨hx, hrest⟩ := List.forall_mem_cons.mp hes
    obtain ⟨path, -, hpath⟩ := exists_ok_of_bind h
    obtain ⟨inner, hinner, hleaves⟩ := exists_ok_of_bind hpath
    exact areLeaves_flattenEntries hrest (areLeaves_flattenInto hx hentries hinner) hleaves

theorem areLeaves_flattenItems :
    ∀ {xs : List Value} {base : Text} {index : Nat} {entries leaves : Entries},
      (∀ x ∈ xs, x.WellMade) → AreLeaves entries →
      flattenItems base index entries xs = .ok leaves → AreLeaves leaves
  | [], _, _, _, _, _, hentries, h => by
    obtain rfl := Except.ok.inj h
    exact hentries
  | x :: xs, base, index, entries, leaves, hxs, hentries, h => by
    obtain ⟨hx, hrest⟩ := List.forall_mem_cons.mp hxs
    obtain ⟨inner, hinner, hleaves⟩ := exists_ok_of_bind h
    exact areLeaves_flattenItems hrest (areLeaves_flattenInto hx hentries hinner) hleaves

end

theorem areLeaves_flatten
    {es : List (Value × Value)} {base : Text} {leaves : Entries} (h : ∀ e ∈ es, e.2.WellMade)
    (hleaves : flatten es base = .ok leaves) : AreLeaves leaves :=
  areLeaves_flattenEntries h .empty hleaves

end Value

end LiveConfig
