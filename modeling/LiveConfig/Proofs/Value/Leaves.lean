import LiveConfig.Proofs.Failing
import LiveConfig.Proofs.Table
import LiveConfig.Value.Flatten
import Mathlib.Data.List.Nodup

/-!
# The writes and the leaves of a nested value

Flattening builds a table of its own for every nested map and writes it over the one outside, while
list items are written into the outer table at once.  Either way the outcome is the table that comes
from writing one leaf after another in document order (`Value.flatten_eq`).

A leaf stands at a position, the steps that lead to it (`Value.leaves`); its path is the text of its
position.  Different positions may have one text, unless all keys are clean names.

**Results.**
* `Value.flatten_eq`: flattening is making the writes for all entries one after another.
* `Value.writesOfEntries_eq`: one write for each leaf, under the text of its position.
* `Value.flatten_one_pass`: flattening is one pass over the leaves in document order.
* `Value.mem_leaves_iff`: where keys are clean, the leaves are exactly the parts that are neither
  maps nor lists, or are empty.
-/

namespace LiveConfig.Value

/-! ## Writes -/

mutual

/-- The writes for a value at a path: its leaves in document order. -/
def writes (path : Text) : Value → Except Failure (List (Value × Value))
  | .map (e :: es) => writesOfEntries path (e :: es)
  | .list (x :: xs) => writesOfItems path 0 (x :: xs)
  | v => .ok [(.str path, v)]

/-- The writes for map entries below a path. -/
def writesOfEntries (base : Text) : List (Value × Value) → Except Failure (List (Value × Value))
  | [] => .ok []
  | (key, x) :: es => do
    let path ← entryPath base key
    let first ← writes path x
    let rest ← writesOfEntries base es
    return first ++ rest

/-- The writes for list items below a path, counting from an index. -/
def writesOfItems (base : Text) (index : Nat) :
    List Value → Except Failure (List (Value × Value))
  | [] => .ok []
  | x :: xs => do
    let first ← writes (itemPath base index) x
    let rest ← writesOfItems base (index + 1) xs
    return first ++ rest

end

/-- Writing one thing and then another is writing both. -/
theorem insertAll_of_writes
    (x y : Except Failure (List (Value × Value))) (table : Entries) :
    ((x.map table.insertAll) >>= fun t => y.map t.insertAll) =
      (x >>= fun first => y >>= fun rest => pure (first ++ rest)).map table.insertAll := by
  rcases x with failure | first
  · rfl
  · rcases y with failure | rest
    · rfl
    · exact congrArg Except.ok (List.foldl_append).symm

mutual

theorem flattenInto_eq (path : Text) (table : Entries) :
    ∀ v : Value, flattenInto path table v = (writes path v).map table.insertAll
  | .map (e :: es) => by
    have hinner := flattenEntries_eq path Table.empty (e :: es)
    simp only [flattenInto, writes, hinner]
    rcases writesOfEntries path (e :: es) with failure | ws
    · rfl
    · exact congrArg Except.ok (table.update_ofList ws)
  | .list (x :: xs) => flattenItems_eq path 0 table (x :: xs)
  -- all else is written under its path as it is
  | .map [] | .list [] | .null | .bool _ | .int _ | .float _ | .str _ | .tuple _ | .set _
  | .bytes _ | .date _ | .moment _ | .removed | .flawed _ _ | .again _ _ _ => rfl

theorem flattenEntries_eq (base : Text) (table : Entries) :
    ∀ es : List (Value × Value),
      flattenEntries base table es = (writesOfEntries base es).map table.insertAll
  | [] => rfl
  | (key, x) :: es => by
    unfold flattenEntries writesOfEntries
    rcases entryPath base key with failure | path
    · rfl
    · have hfirst := flattenInto_eq path table x
      have hrest := fun t => flattenEntries_eq base t es
      simp only [ok_bind, hfirst, hrest]
      exact insertAll_of_writes _ _ table

theorem flattenItems_eq (base : Text) (index : Nat) (table : Entries) :
    ∀ xs : List Value,
      flattenItems base index table xs = (writesOfItems base index xs).map table.insertAll
  | [] => rfl
  | x :: xs => by
    unfold flattenItems writesOfItems
    have hfirst := flattenInto_eq (itemPath base index) table x
    have hrest := fun t => flattenItems_eq base (index + 1) t xs
    simp only [hfirst, hrest]
    exact insertAll_of_writes _ _ table

end

/-- Flattening is writing the leaves one after another in document order. -/
theorem flatten_eq (es : List (Value × Value)) (base : Text) :
    flatten es base = (writesOfEntries base es).map Table.ofList :=
  flattenEntries_eq base Table.empty es

/-! ## Positions -/

/-- A step from a map or a list to what stands in it. -/
inductive Step
  | key (name : Text)
  | index (i : Nat)
  deriving DecidableEq

/-- The steps that lead from a value to a part of it. -/
abbrev Position := List Step

/-- The path of what a step leads to. -/
def Step.pathFrom (base : Text) : Step → Text
  | .key name => if base.isEmpty then name else base ++ "." ++ name
  | .index i => itemPath base i

/-- The path of a position below a base. -/
def Position.text (base : Text) (p : Position) : Text :=
  p.foldl Step.pathFrom base

/-- What stands at a position. -/
def at? : Position → Value → Option Value
  | [], v => some v
  | .key name :: p, .map entries => (firstValue? (.str name) entries).bind (at? p)
  | .index i :: p, .list items => items[i]?.bind (at? p)
  | _, _ => none

/-- Whether a value is neither a map nor a list with something in it. -/
def isLeaf : Value → Bool
  | .map entries => entries.isEmpty
  | .list items => items.isEmpty
  | .again .map _ _ | .again .list _ _ => false
  | _ => true

/-- A part of a value with its position. -/
abbrev Leaf := Position × Value

/-- A leaf one step further away. -/
def Leaf.below (step : Step) (l : Leaf) : Leaf :=
  (step :: l.1, l.2)

mutual

/-- The leaves of a value in document order. -/
def leaves : Value → List Leaf
  | .map (e :: es) => leavesOfEntries (e :: es)
  | .list (x :: xs) => leavesOfItems 0 (x :: xs)
  | v => [([], v)]

/-- The leaves of map entries. -/
def leavesOfEntries : List (Value × Value) → List Leaf
  | [] => []
  | (key, x) :: es => (leaves x).map (Leaf.below (.key key.display)) ++ leavesOfEntries es

/-- The leaves of list items, counting from an index. -/
def leavesOfItems (index : Nat) : List Value → List Leaf
  | [] => []
  | x :: xs => (leaves x).map (Leaf.below (.index index)) ++ leavesOfItems (index + 1) xs

end

/-- The write of a leaf: its value under the path of its position. -/
def Leaf.write (base : Text) (l : Leaf) : Value × Value :=
  (.str (Position.text base l.1), l.2)

theorem leaves_of_isLeaf {v : Value} (h : v.isLeaf = true) : leaves v = [([], v)] := by
  cases v with
  | map entries =>
    obtain rfl : entries = [] := List.isEmpty_iff.mp h
    rfl
  | list items =>
    obtain rfl : items = [] := List.isEmpty_iff.mp h
    rfl
  | _ => rfl

theorem leaves_map {entries : List (Value × Value)} (h : entries ≠ []) :
    leaves (.map entries) = leavesOfEntries entries := by
  cases entries with
  | nil => contradiction
  | cons e es => rfl

theorem leaves_list {items : List Value} (h : items ≠ []) :
    leaves (.list items) = leavesOfItems 0 items := by
  cases items with
  | nil => contradiction
  | cons x xs => rfl

theorem leavesOfEntries_eq (es : List (Value × Value)) :
    leavesOfEntries es =
      es.flatMap fun e => (leaves e.2).map (Leaf.below (.key e.1.display)) := by
  induction es with
  | nil => rfl
  | cons e es ih => rw [leavesOfEntries, ih, List.flatMap_cons]

theorem leavesOfItems_eq (xs : List Value) (i : Nat) :
    leavesOfItems i xs =
      (xs.zipIdx i).flatMap fun e => (leaves e.1).map (Leaf.below (.index e.2)) := by
  induction xs generalizing i with
  | nil => rfl
  | cons x xs ih => rw [leavesOfItems, ih, List.zipIdx_cons, List.flatMap_cons]

/-! ## One write for each leaf -/

mutual

/-- The keys of all maps in a value, also of those in its lists. -/
def keysWithin : Value → List Value
  | .map entries => keysWithinEntries entries
  | .list items => keysWithinItems items
  | _ => []

/-- The keys of map entries and those within their values. -/
def keysWithinEntries : List (Value × Value) → List Value
  | [] => []
  | (key, x) :: es => key :: (keysWithin x ++ keysWithinEntries es)

/-- The keys within some items. -/
def keysWithinItems : List Value → List Value
  | [] => []
  | x :: xs => keysWithin x ++ keysWithinItems xs

end

theorem keysWithin_of_isLeaf {v : Value} (h : v.isLeaf = true) : keysWithin v = [] := by
  cases v with
  | map entries =>
    obtain rfl : entries = [] := List.isEmpty_iff.mp h
    rfl
  | list items =>
    obtain rfl : items = [] := List.isEmpty_iff.mp h
    rfl
  | _ => rfl

theorem keysWithinEntries_eq (es : List (Value × Value)) :
    keysWithinEntries es = es.flatMap fun e => e.1 :: keysWithin e.2 := by
  induction es with
  | nil => rfl
  | cons e es ih => rw [keysWithinEntries, ih, List.flatMap_cons, List.cons_append]

theorem keysWithinItems_eq (xs : List Value) : keysWithinItems xs = xs.flatMap keysWithin := by
  induction xs with
  | nil => rfl
  | cons x xs ih => rw [keysWithinItems, ih, List.flatMap_cons]

/-- Something, unless one of some keys cannot be written. -/
def ifWritable {α : Type} (keys : List Value) (x : α) : Except Failure α :=
  if keys.all isWritable then .ok x else .error .longNumber

theorem ifWritable_append (keys keys' : List Value) (first rest : List (Value × Value)) :
    (ifWritable keys first >>= fun a => ifWritable keys' rest >>= fun b => pure (a ++ b)) =
      ifWritable (keys ++ keys') (first ++ rest) := by
  unfold ifWritable
  rw [List.all_append]
  cases keys.all isWritable with
  | false => rfl
  | true => cases keys'.all isWritable <;> rfl

theorem entryPath_of_isWritable {key : Value} (base : Text) (h : key.isWritable = true) :
    entryPath base key = .ok ((Step.key key.display).pathFrom base) := by
  rw [entryPath, written, if_pos h]
  rfl

mutual

theorem writes_eq (path : Text) :
    ∀ v : Value, writes path v = ifWritable (keysWithin v) ((leaves v).map (Leaf.write path))
  | .map (e :: es) => writesOfEntries_eq path (e :: es)
  | .list (x :: xs) => writesOfItems_eq path 0 (x :: xs)
  -- all else is a leaf
  | .map [] | .list [] | .null | .bool _ | .int _ | .float _ | .str _ | .tuple _ | .set _
  | .bytes _ | .date _ | .moment _ | .removed | .flawed _ _ | .again _ _ _ => rfl

theorem writesOfEntries_eq (base : Text) :
    ∀ es : List (Value × Value),
      writesOfEntries base es =
        ifWritable (keysWithinEntries es) ((leavesOfEntries es).map (Leaf.write base))
  | [] => rfl
  | (key, x) :: es => by
    have hfirst := writes_eq ((Step.key key.display).pathFrom base) x
    have hrest := writesOfEntries_eq base es
    rw [writesOfEntries, keysWithinEntries, leavesOfEntries, List.map_append, List.map_map]
    cases hkey : key.isWritable with
    | false =>
      rw [entryPath, written, hkey, ifWritable, List.all_cons, hkey]
      rfl
    | true =>
      rw [entryPath_of_isWritable base hkey, ok_bind, hfirst, hrest]
      refine (ifWritable_append _ _ _ _).trans ?_
      rw [ifWritable, ifWritable, List.all_cons, hkey, Bool.true_and]
      rfl

theorem writesOfItems_eq (base : Text) (index : Nat) :
    ∀ xs : List Value,
      writesOfItems base index xs =
        ifWritable (keysWithinItems xs) ((leavesOfItems index xs).map (Leaf.write base))
  | [] => rfl
  | x :: xs => by
    have hfirst := writes_eq (itemPath base index) x
    have hrest := writesOfItems_eq base (index + 1) xs
    rw [writesOfItems, hfirst, hrest]
    refine (ifWritable_append _ _ _ _).trans ?_
    rw [keysWithinItems, leavesOfItems, List.map_append, List.map_map]
    rfl

end

/-- The table after the leaves of map entries are written in document order. -/
def onePass (base : Text) (es : List (Value × Value)) : Entries :=
  Table.ofList ((leavesOfEntries es).map (Leaf.write base))

theorem flatten_eq_onePass (es : List (Value × Value)) (base : Text) :
    flatten es base = ifWritable (keysWithinEntries es) (onePass base es) := by
  rw [flatten_eq, writesOfEntries_eq, ifWritable, ifWritable]
  split <;> rfl

/-- A write is found under the text of its position. -/
theorem firstValue?_map_write (base path : Text) (ls : List Leaf) :
    firstValue? (.str path) (ls.map (Leaf.write base)) =
      (ls.find? fun l => Position.text base l.1 = path).map Prod.snd := by
  induction ls with
  | nil => rfl
  | cons l ls ih =>
    rw [List.map_cons, firstValue?, Leaf.write, str_beq_str, List.find?_cons, ih]
    by_cases h : Position.text base l.1 = path <;> simp [h]

/--
**Flattening is one pass of ordered writes.**  Unless some key in the document cannot be written, it
gives the table that comes from writing each leaf under the text of its position, in document order.
Every path stands where it was first written, and has the value that was written last.
-/
theorem flatten_one_pass (es : List (Value × Value)) (base : Text) :
    (flatten es base =
      if (keysWithinEntries es).all isWritable then .ok (onePass base es)
      else .error .longNumber) ∧
    (onePass base es).keys =
      ((leavesOfEntries es).map fun l => Value.str (Position.text base l.1)).eraseDups ∧
    ∀ path : Text, (onePass base es).get? (.str path) =
      ((leavesOfEntries es).reverse.find? fun l => Position.text base l.1 = path).map Prod.snd := by
  refine ⟨flatten_eq_onePass es base, ?_, fun path => ?_⟩
  · rw [onePass, Table.ofList, Table.keys_insertAll, List.map_map]
    rfl
  · rw [onePass, Table.ofList, Table.get?_insertAll, ← List.map_reverse, firstValue?_map_write,
      Table.get?_empty, Option.or_none]

/-- Of two leaves with one path the second one gives the value and the first one the place. -/
example :
    (flatten
      [(.str "a", .map [(.str "b", .null), (.bool true, .list [.tuple [], .map []])]),
        (.str "a.b", .str "x")] "").toOption.map (·.entries) =
      some [(.str "a.b", .str "x"), (.str "a.True[0]", .tuple []), (.str "a.True[1]", .map [])] :=
  rfl

end LiveConfig.Value

namespace LiveConfig

/-! ## Clean keys -/

/-- A name that can be told from what is around it in a path. -/
structure Text.IsClean (name : Text) : Prop where
  ne_nil : name.points ≠ []
  no_dot : CodePoint.char '.' ∉ name.points
  no_bracket : CodePoint.char '[' ∉ name.points

namespace Value

/-- A key that is a clean name. -/
def IsCleanKey (key : Value) : Prop :=
  ∃ name : Text, key = .str name ∧ name.IsClean

/-- The keys of maps are clean and different names at every level, inside lists too. -/
inductive HasCleanKeys : Value → Prop
  | leaf {v : Value} (h : v.isLeaf = true) : HasCleanKeys v
  | list {items : List Value} (hne : items ≠ []) (h : ∀ x ∈ items, HasCleanKeys x) :
      HasCleanKeys (.list items)
  | map {entries : List (Value × Value)} (hne : entries ≠ []) (hdistinct : DistinctKeys entries)
      (hkeys : ∀ e ∈ entries, e.1.IsCleanKey) (h : ∀ e ∈ entries, HasCleanKeys e.2) :
      HasCleanKeys (.map entries)

namespace HasCleanKeys

theorem of_list {items : List Value} (h : (Value.list items).HasCleanKeys) :
    ∀ x ∈ items, x.HasCleanKeys := by
  cases h with
  | leaf h =>
    obtain rfl : items = [] := List.isEmpty_iff.mp h
    exact List.forall_mem_nil _
  | list _ h => exact h

theorem distinct {entries : List (Value × Value)} (h : (Value.map entries).HasCleanKeys) :
    DistinctKeys entries := by
  cases h with
  | leaf h =>
    obtain rfl : entries = [] := List.isEmpty_iff.mp h
    exact List.Pairwise.nil
  | map _ hdistinct _ _ => exact hdistinct

theorem of_map {entries : List (Value × Value)} (h : (Value.map entries).HasCleanKeys) :
    ∀ e ∈ entries, e.1.IsCleanKey ∧ e.2.HasCleanKeys := by
  cases h with
  | leaf h =>
    obtain rfl : entries = [] := List.isEmpty_iff.mp h
    exact List.forall_mem_nil _
  | map _ _ hkeys h => exact fun e he => ⟨hkeys e he, h e he⟩

end HasCleanKeys

/-- Clean keys are texts, so they can be written. -/
theorem HasCleanKeys.isWritable {v : Value} (h : v.HasCleanKeys) :
    ∀ key ∈ keysWithin v, key.isWritable = true := by
  induction h with
  | leaf hleaf =>
    rw [keysWithin_of_isLeaf hleaf]
    exact List.forall_mem_nil _
  | @list items _ _ ih =>
    rw [keysWithin, keysWithinItems_eq]
    intro key hkey
    obtain ⟨x, hx, hmem⟩ := List.mem_flatMap.mp hkey
    exact ih x hx key hmem
  | @map entries _ _ hkeys _ ih =>
    rw [keysWithin, keysWithinEntries_eq]
    intro key hkey
    obtain ⟨e, he, hmem⟩ := List.mem_flatMap.mp hkey
    rcases List.mem_cons.mp hmem with rfl | hmem
    · obtain ⟨name, hname, -⟩ := hkeys e he
      rw [hname]
      rfl
    · exact ih e he key hmem

/-! ## Which leaves there are -/

/-- A leaf of entries with different clean keys is one of the value that is found under its first
step. -/
theorem mem_leavesOfEntries_iff
    {es : List (Value × Value)} (hdistinct : DistinctKeys es) (hkeys : ∀ e ∈ es, e.1.IsCleanKey)
    {p : Position} {x : Value} :
    (p, x) ∈ leavesOfEntries es ↔
      ∃ name q y, p = .key name :: q ∧ firstValue? (.str name) es = some y ∧
        (q, x) ∈ leaves y := by
  rw [leavesOfEntries_eq, List.mem_flatMap]
  constructor
  · rintro ⟨e, he, hmem⟩
    obtain ⟨l, hl, hbelow⟩ := List.mem_map.mp hmem
    obtain ⟨rfl, rfl⟩ := Prod.mk.inj hbelow
    obtain ⟨name, hname, -⟩ := hkeys e he
    refine ⟨name, l.1, e.2, by rw [hname]; rfl, ?_, hl⟩
    refine (firstValue?_eq_some_iff hdistinct).mpr ⟨e.1, he, ?_⟩
    simp [hname]
  · rintro ⟨name, q, y, rfl, hfound, hmem⟩
    obtain ⟨key, he, hkey⟩ := (firstValue?_eq_some_iff hdistinct).mp hfound
    obtain ⟨name', rfl : key = .str name', -⟩ := hkeys _ he
    obtain rfl : name' = name := by simpa using hkey
    exact ⟨_, he, List.mem_map.mpr ⟨(q, x), hmem, rfl⟩⟩

/-- A leaf of items is one of the item that its first step leads to. -/
theorem mem_leavesOfItems_iff {xs : List Value} {p : Position} {x : Value} :
    (p, x) ∈ leavesOfItems 0 xs ↔
      ∃ i q y, p = .index i :: q ∧ xs[i]? = some y ∧ (q, x) ∈ leaves y := by
  rw [leavesOfItems_eq, List.mem_flatMap]
  constructor
  · rintro ⟨e, he, hmem⟩
    obtain ⟨l, hl, hbelow⟩ := List.mem_map.mp hmem
    obtain ⟨rfl, rfl⟩ := Prod.mk.inj hbelow
    exact ⟨e.2, l.1, e.1, rfl, List.mem_zipIdx_iff_getElem?.mp he, hl⟩
  · rintro ⟨i, q, y, rfl, hfound, hmem⟩
    exact ⟨(y, i), List.mem_zipIdx_iff_getElem?.mpr hfound, List.mem_map.mpr ⟨(q, x), hmem, rfl⟩⟩

theorem at?_step_of_isLeaf {v : Value} (h : v.isLeaf = true) (step : Step) (p : Position) :
    at? (step :: p) v = none := by
  cases v with
  | map entries =>
    obtain rfl : entries = [] := List.isEmpty_iff.mp h
    cases step <;> rfl
  | list items =>
    obtain rfl : items = [] := List.isEmpty_iff.mp h
    cases step <;> rfl
  | _ => cases step <;> rfl

/-- The leaves of a value are the parts of it that are leaves, each at its position. -/
theorem mem_leaves_iff {v x : Value} {p : Position} (h : v.HasCleanKeys) :
    (p, x) ∈ leaves v ↔ at? p v = some x ∧ x.isLeaf = true := by
  induction h generalizing p with
  | @leaf v hleaf =>
    rw [leaves_of_isLeaf hleaf, List.mem_singleton, Prod.mk.injEq]
    cases p with
    | nil =>
      simp only [true_and, at?, Option.some.injEq]
      exact ⟨fun hx => ⟨hx.symm, hx ▸ hleaf⟩, fun hx => hx.1.symm⟩
    | cons step q => simp [at?_step_of_isLeaf hleaf]
  | @list items hne _ ih =>
    rw [leaves_list hne, mem_leavesOfItems_iff]
    constructor
    · rintro ⟨i, q, y, rfl, hfound, hmem⟩
      rw [at?, hfound]
      exact (ih y (List.mem_of_getElem? hfound)).mp hmem
    · rintro ⟨hat, hleaf⟩
      match p with
      | [] =>
        obtain rfl := Option.some.inj hat
        exact absurd (List.isEmpty_iff.mp hleaf) hne
      | .key name :: q => cases hat
      | .index i :: q =>
        obtain ⟨y, hfound, hy⟩ := Option.bind_eq_some_iff.mp hat
        exact ⟨i, q, y, rfl, hfound, (ih y (List.mem_of_getElem? hfound)).mpr ⟨hy, hleaf⟩⟩
  | @map entries hne hdistinct hkeys _ ih =>
    rw [leaves_map hne, mem_leavesOfEntries_iff hdistinct hkeys]
    constructor
    · rintro ⟨name, q, y, rfl, hfound, hmem⟩
      obtain ⟨key, he, -⟩ := exists_mem_of_firstValue? hfound
      rw [at?, hfound]
      exact (ih _ he).mp hmem
    · rintro ⟨hat, hleaf⟩
      match p with
      | [] =>
        obtain rfl := Option.some.inj hat
        exact absurd (List.isEmpty_iff.mp hleaf) hne
      | .index i :: q => cases hat
      | .key name :: q =>
        obtain ⟨y, hfound, hy⟩ := Option.bind_eq_some_iff.mp hat
        obtain ⟨key, he, -⟩ := exists_mem_of_firstValue? hfound
        exact ⟨name, q, y, rfl, hfound, (ih _ he).mpr ⟨hy, hleaf⟩⟩

/-! ## Different leaves stand at different positions -/

theorem nodup_map_below {ls : List Leaf} (h : (ls.map Prod.fst).Nodup) (step : Step) :
    ((ls.map (Leaf.below step)).map Prod.fst).Nodup := by
  have hcons : (ls.map (Leaf.below step)).map Prod.fst = (ls.map Prod.fst).map (step :: ·) := by
    rw [List.map_map, List.map_map]
    rfl
  rw [hcons]
  exact h.map List.cons_injective

/-- Leaves behind different first steps stand at different positions. -/
theorem nodup_flatMap_below
    {α : Type} {f : α → List Leaf} {step : α → Step} {xs : List α}
    (h : ∀ x ∈ xs, ((f x).map Prod.fst).Nodup)
    (hsteps : xs.Pairwise fun x y => step x ≠ step y) :
    ((xs.flatMap fun x => (f x).map (Leaf.below (step x))).map Prod.fst).Nodup := by
  rw [List.map_flatMap, List.nodup_flatMap]
  refine ⟨fun x hx => nodup_map_below (h x hx) (step x), hsteps.imp fun hne => ?_⟩
  refine List.disjoint_left.mpr fun p hp hq => hne ?_
  obtain ⟨l, hl, rfl⟩ := List.mem_map.mp hp
  obtain ⟨m, hm, hsame⟩ := List.mem_map.mp hq
  obtain ⟨l', -, rfl⟩ := List.mem_map.mp hl
  obtain ⟨m', -, rfl⟩ := List.mem_map.mp hm
  exact (List.cons.inj hsame).1.symm

theorem nodup_positions {v : Value} (h : v.HasCleanKeys) : ((leaves v).map Prod.fst).Nodup := by
  induction h with
  | leaf hleaf =>
    rw [leaves_of_isLeaf hleaf]
    exact List.nodup_singleton _
  | @list items hne _ ih =>
    rw [leaves_list hne, leavesOfItems_eq]
    have hindices : (items.zipIdx.map Prod.snd).Nodup := by
      rw [List.zipIdx_map_snd]
      exact List.nodup_range'
    refine nodup_flatMap_below (fun e he => ih e.1 (List.fst_mem_of_mem_zipIdx he)) ?_
    exact (List.pairwise_map.mp hindices).imp fun hne hsame => hne (Step.index.inj hsame)
  | @map entries hne hdistinct hkeys _ ih =>
    rw [leaves_map hne, leavesOfEntries_eq]
    refine nodup_flatMap_below ih (hdistinct.imp_of_mem fun {a b} ha hb hab hsame => ?_)
    obtain ⟨name, hname, -⟩ := hkeys a ha
    obtain ⟨name', hname', -⟩ := hkeys b hb
    rw [hname, hname', str_beq_str] at hab
    rw [hname, hname'] at hsame
    exact of_decide_eq_false hab (Step.key.inj hsame)

end Value

end LiveConfig
