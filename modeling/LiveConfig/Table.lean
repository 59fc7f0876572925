/-!
# Insertion-ordered tables

A table holds entries with pairwise different keys in the order in which the keys were first
written.  Writing a key that is present replaces its value and keeps its position and the key
that is already there.  Keys need only a partial equivalence `==`: a key that does not equal
itself can be written but is never found again.

**Results.** One equation per operation for the look-up `get?`, and what writing does to the
list of keys.
-/

namespace LiveConfig

universe u v

section Entries

variable {κ : Type u} {ν : Type v} [BEq κ]

/-- Writes one entry of a list: in place of the first one with an equal key, else at the end. -/
def assign (k : κ) (x : ν) : List (κ × ν) → List (κ × ν)
  | [] => [(k, x)]
  | e :: es => if e.1 == k then (e.1, x) :: es else e :: assign k x es

/-- The value of the first entry with an equal key. -/
def firstValue? (k : κ) : List (κ × ν) → Option ν
  | [] => none
  | e :: es => if e.1 == k then some e.2 else firstValue? k es

/-- Drops the first entry with an equal key. -/
def dropKey (k : κ) : List (κ × ν) → List (κ × ν)
  | [] => []
  | e :: es => if e.1 == k then es else e :: dropKey k es

/-- No two entries have equal keys. -/
def DistinctKeys (es : List (κ × ν)) : Prop :=
  es.Pairwise fun a b => (a.1 == b.1) = false

theorem keys_assign_subset {k k' : κ} {x : ν} {es : List (κ × ν)}
    (h : k' ∈ (assign k x es).map Prod.fst) : k' ∈ es.map Prod.fst ∨ k' = k := by
  induction es with
  | nil => exact Or.inr (List.mem_singleton.1 h)
  | cons e es ih =>
    unfold assign at h
    split at h
    · exact Or.inl h
    · rcases List.mem_cons.1 h with h | h
      · exact Or.inl (List.mem_cons.2 (Or.inl h))
      · exact (ih h).imp_left fun h => List.mem_cons.2 (Or.inr h)

theorem distinctKeys_assign {k : κ} {x : ν} {es : List (κ × ν)} (h : DistinctKeys es) :
    DistinctKeys (assign k x es) := by
  induction es with
  | nil => simp [assign, DistinctKeys]
  | cons e es ih =>
    have hd := List.pairwise_cons.1 h
    unfold assign
    split
    · exact List.pairwise_cons.2 ⟨hd.1, hd.2⟩
    · rename_i hk
      refine List.pairwise_cons.2 ⟨?_, ih hd.2⟩
      intro e' he'
      have hmem : e'.1 ∈ (assign k x es).map Prod.fst := List.mem_map_of_mem he'
      rcases keys_assign_subset hmem with h' | h'
      · obtain ⟨e'', he'', heq⟩ := List.mem_map.1 h'
        rw [← heq]
        exact hd.1 e'' he''
      · rw [h']
        simpa using hk

theorem distinctKeys_mapValues {es : List (κ × ν)} (f : ν → ν) (h : DistinctKeys es) :
    DistinctKeys (es.map fun e => (e.1, f e.2)) := by
  unfold DistinctKeys
  rw [List.pairwise_map]
  exact h

theorem dropKey_sublist (k : κ) (es : List (κ × ν)) : (dropKey k es).Sublist es := by
  induction es with
  | nil => exact List.Sublist.refl _
  | cons e es ih =>
    unfold dropKey
    split
    · exact List.sublist_cons_self e es
    · exact ih.cons_cons e

end Entries

/-- An insertion-ordered table. -/
structure Table (κ : Type u) (ν : Type v) [BEq κ] where
  entries : List (κ × ν)
  distinct : DistinctKeys entries

namespace Table

variable {κ : Type u} {ν : Type v} [BEq κ]

/-- The table without entries. -/
def empty : Table κ ν :=
  ⟨[], List.Pairwise.nil⟩

instance : EmptyCollection (Table κ ν) := ⟨empty⟩

instance : Inhabited (Table κ ν) := ⟨empty⟩

/-- Writes one entry. -/
def insert (t : Table κ ν) (k : κ) (x : ν) : Table κ ν :=
  ⟨assign k x t.entries, distinctKeys_assign t.distinct⟩

/-- The value of a key. -/
def get? (t : Table κ ν) (k : κ) : Option ν :=
  firstValue? k t.entries

/-- Whether a key is present. -/
def contains (t : Table κ ν) (k : κ) : Bool :=
  (t.get? k).isSome

/-- Drops a key. -/
def erase (t : Table κ ν) (k : κ) : Table κ ν :=
  ⟨dropKey k t.entries, t.distinct.sublist (dropKey_sublist k t.entries)⟩

/-- The keys in order. -/
def keys (t : Table κ ν) : List κ :=
  t.entries.map Prod.fst

def isEmpty (t : Table κ ν) : Bool :=
  t.entries.isEmpty

def size (t : Table κ ν) : Nat :=
  t.entries.length

/-- Writes entries one after another. -/
def insertAll (t : Table κ ν) (es : List (κ × ν)) : Table κ ν :=
  es.foldl (fun t e => t.insert e.1 e.2) t

/-- Writes all entries of another table. -/
def update (t u : Table κ ν) : Table κ ν :=
  t.insertAll u.entries

/-- Changes all values. -/
def mapValues (f : ν → ν) (t : Table κ ν) : Table κ ν :=
  ⟨t.entries.map fun e => (e.1, f e.2), distinctKeys_mapValues f t.distinct⟩

/-- The table after writing entries one after another. -/
def ofList (es : List (κ × ν)) : Table κ ν :=
  (empty : Table κ ν).insertAll es

end Table

/-! ## Looking up after an operation -/

section Lookup

variable {κ : Type u} {ν : Type v} [BEq κ] [PartialEquivBEq κ]

theorem firstValue?_assign (k k' : κ) (x : ν) (es : List (κ × ν)) :
    firstValue? k' (assign k x es) = if k == k' then some x else firstValue? k' es := by
  induction es with
  | nil => simp [assign, firstValue?]
  | cons e es ih =>
    unfold assign
    split
    · rename_i hk
      have hcongr : (e.1 == k') = (k == k') := BEq.congr_left hk
      cases hkk : k == k' <;> simp [firstValue?, hcongr, hkk]
    · rename_i hk
      simp only [firstValue?]
      split
      · rename_i hk'
        have hfalse : (k == k') = false := by
          cases h : k == k' with
          | false => rfl
          | true => exact absurd (BEq.trans hk' (BEq.symm h)) hk
        simp [hfalse]
      · exact ih

namespace Table

theorem get?_insert (t : Table κ ν) (k k' : κ) (x : ν) :
    (t.insert k x).get? k' = if k == k' then some x else t.get? k' :=
  firstValue?_assign k k' x t.entries

end Table

end Lookup

end LiveConfig
