import LiveConfig.Proofs.Table
import LiveConfig.Stack.Basic
import Mathlib.Data.List.Nodup

/-!
# Stack operations as list operations

A layer stack finds a layer by its index and changes by building list and index anew.  Seen from
outside it is a list of layers with pairwise different names: every operation is described here by
what it does to that list, and its success by the names that must or must not be there.

A name that is live cuts the list at one place (`exists_split`).  The edits at a name put some layers
in the place of the one that has it (`Layer.expand`), so all descriptions of anchored operations
follow from that cut.

**Results.**
* `LayerStack.names_nodup`, `LayerStack.mem_names_iff`, `LayerStack.get?_eq_some_iff`: the index
  answers what a search of the list would.
* `LayerStack.exists_ofList`: distinct names always make a stack.
* `LayerStack.addLast_ok`, `addBefore_ok`, `addAfter_ok`, `replace_ok`, `remove_ok`: what the
  operations do to the list.
-/

namespace LiveConfig

namespace Layer

/-! ## Edits of a list at a name -/

/-- Puts some layers, which may depend on it, in the place of the one of a name. -/
def expand (name : Text) (f : Layer → List Layer) (layers : List Layer) : List Layer :=
  layers.flatMap fun l => if l.name = name then f l else [l]

/-- Puts a layer right before the one of a name. -/
def insertBefore (anchor : Text) (layer : Layer) (layers : List Layer) : List Layer :=
  expand anchor (fun l => [layer, l]) layers

/-- Puts a layer right after the one of a name. -/
def insertAfter (anchor : Text) (layer : Layer) (layers : List Layer) : List Layer :=
  expand anchor (fun l => [l, layer]) layers

/-- Puts a layer in the place of the one of a name. -/
def substitute (name : Text) (layer : Layer) (layers : List Layer) : List Layer :=
  expand name (fun _ => [layer]) layers

variable {name : Text} {f : Layer → List Layer} {layer a : Layer} {before after : List Layer}

/-- A list is cut at the only place where a name occurs. -/
structure SplitsAt (name : Text) (before : List Layer) (a : Layer) (after : List Layer) :
    Prop where
  name_eq : a.name = name
  before_ne : ∀ l ∈ before, l.name ≠ name
  after_ne : ∀ l ∈ after, l.name ≠ name

/-- Among distinct names any name that is there cuts the list. -/
theorem exists_splitsAt
    {layers : List Layer}
    (hnodup : (layers.map Layer.name).Nodup) (h : name ∈ layers.map Layer.name) :
    ∃ before a after, layers = before ++ a :: after ∧ SplitsAt name before a after := by
  obtain ⟨a, hmem, hname⟩ := List.mem_map.mp h
  obtain ⟨before, after, rfl⟩ := List.append_of_mem hmem
  rw [List.map_append, List.map_cons, List.nodup_append] at hnodup
  obtain ⟨-, hafter, hbefore⟩ := hnodup
  refine ⟨before, a, after, rfl, hname, ?_, ?_⟩
  · intro l hl heq
    exact hbefore l.name (List.mem_map_of_mem hl) a.name List.mem_cons_self (heq.trans hname.symm)
  · intro l hl heq
    have hmem : l.name ∈ after.map Layer.name := List.mem_map_of_mem hl
    rw [heq, ← hname] at hmem
    exact (List.nodup_cons.mp hafter).1 hmem

theorem expand_append (xs ys : List Layer) :
    expand name f (xs ++ ys) = expand name f xs ++ expand name f ys :=
  List.flatMap_append

theorem expand_cons (l : Layer) (layers : List Layer) :
    expand name f (l :: layers) = (if l.name = name then f l else [l]) ++ expand name f layers :=
  List.flatMap_cons

theorem expand_of_ne
    {layers : List Layer} (h : ∀ l ∈ layers, l.name ≠ name) :
    expand name f layers = layers := by
  induction layers with
  | nil => rfl
  | cons l rest ih =>
    rw [expand_cons, if_neg (h l List.mem_cons_self),
      ih fun l' hl' => h l' (List.mem_cons_of_mem _ hl')]
    rfl

theorem expand_split
    (h : SplitsAt name before a after) :
    expand name f (before ++ a :: after) = before ++ (f a ++ after) := by
  rw [expand_append, expand_cons, expand_of_ne h.before_ne, expand_of_ne h.after_ne,
    if_pos h.name_eq]

theorem insertBefore_split
    (h : SplitsAt name before a after) :
    insertBefore name layer (before ++ a :: after) = before ++ layer :: a :: after :=
  expand_split h

theorem insertAfter_split
    (h : SplitsAt name before a after) :
    insertAfter name layer (before ++ a :: after) = before ++ a :: layer :: after :=
  expand_split h

theorem substitute_split
    (h : SplitsAt name before a after) :
    substitute name layer (before ++ a :: after) = before ++ layer :: after :=
  expand_split h

theorem filter_ne_split
    (h : SplitsAt name before a after) :
    ((before ++ a :: after).filter fun l => l.name != name) = before ++ after := by
  have hb : (before.filter fun l => l.name != name) = before :=
    List.filter_eq_self.mpr fun l hl => bne_iff_ne.mpr (h.before_ne l hl)
  have ha : (after.filter fun l => l.name != name) = after :=
    List.filter_eq_self.mpr fun l hl => bne_iff_ne.mpr (h.after_ne l hl)
  rw [List.filter_append, List.filter_cons, hb, ha]
  simp [h.name_eq]

/-- Writing at the position of a name substitutes. -/
theorem set_split
    (h : SplitsAt name before a after) :
    (before ++ a :: after).set before.length layer =
      substitute name layer (before ++ a :: after) := by
  rw [substitute_split h]
  simp

/-- Erasing at the position of a name keeps the layers of other names. -/
theorem eraseIdx_split
    (h : SplitsAt name before a after) :
    (before ++ a :: after).eraseIdx before.length =
      (before ++ a :: after).filter fun l => l.name != name := by
  rw [filter_ne_split h, List.eraseIdx_append_of_length_le (Nat.le_refl _)]
  simp

end Layer

/-! ## Building an index -/

/-- An index can be extended by distinct names that it does not have yet. -/
theorem exists_indexFrom
    (i : Nat) (index : Table Text Nat) {layers : List Layer}
    (hnodup : (layers.map Layer.name).Nodup)
    (hnew : ∀ layer ∈ layers, index.contains layer.name = false) :
    ∃ result, indexFrom i index layers = .ok result := by
  induction layers generalizing i index with
  | nil => exact ⟨index, rfl⟩
  | cons layer rest ih =>
    obtain ⟨hhead, htail⟩ := List.nodup_cons.mp hnodup
    have hrest : ∀ l ∈ rest, (index.insert layer.name i).contains l.name = false := by
      intro l hl
      have hne : layer.name ≠ l.name := by
        intro heq
        exact hhead (heq ▸ List.mem_map_of_mem hl)
      have hold := hnew l (List.mem_cons_of_mem _ hl)
      simpa [Table.contains, Table.get?_insert, hne] using hold
    obtain ⟨result, hresult⟩ := ih (i + 1) _ htail hrest
    refine ⟨result, ?_⟩
    rw [indexFrom, hnew layer List.mem_cons_self]
    exact hresult

namespace LayerStack

variable {s : LayerStack} {name anchor : Text} {layer : Layer}

/-! ## What the index answers -/

theorem mem_names_iff : name ∈ s.names ↔ ∃ l ∈ s.layers, l.name = name :=
  List.mem_map

theorem contains_iff : s.contains name = true ↔ name ∈ s.names := by
  unfold contains Table.contains
  rw [Option.isSome_iff_exists]
  constructor
  · rintro ⟨i, hi⟩
    obtain ⟨l, hl, hname⟩ := Option.map_eq_some_iff.mp ((s.indexed name i).mp hi)
    exact mem_names_iff.mpr ⟨l, List.mem_of_getElem? hl, hname⟩
  · intro h
    obtain ⟨l, hl, hname⟩ := mem_names_iff.mp h
    obtain ⟨i, hi⟩ := List.getElem?_of_mem hl
    exact ⟨i, (s.indexed name i).mpr (by rw [hi, Option.map_some, hname])⟩

theorem contains_eq_false_iff : s.contains name = false ↔ name ∉ s.names := by
  rw [← contains_iff, Bool.not_eq_true]

/-- An index has one position for a name, so no name occurs twice. -/
theorem names_nodup (s : LayerStack) : s.names.Nodup := by
  rw [List.nodup_iff_getElem?_ne_getElem?]
  intro i j hij hj heq
  have hsome : ∃ name, s.names[j]? = some name := by
    exact ⟨_, List.getElem?_eq_getElem hj⟩
  obtain ⟨name, hname⟩ := hsome
  have hpos (k : Nat) (hk : s.names[k]? = some name) : s.index.get? name = some k :=
    (s.indexed name k).mpr (by simpa [names] using hk)
  have hi := hpos i (heq.trans hname)
  have hj := hpos j hname
  rw [hi] at hj
  exact absurd (Option.some.inj hj) (by omega)

/-- A live name cuts the list at the position that the index has for it. -/
theorem exists_split (h : name ∈ s.names) :
    ∃ before a after,
      s.layers = before ++ a :: after ∧ Layer.SplitsAt name before a after ∧
      s.index.get? name = some before.length := by
  obtain ⟨before, a, after, hsplit, hcut⟩ := Layer.exists_splitsAt s.names_nodup h
  refine ⟨before, a, after, hsplit, hcut, ?_⟩
  rw [s.indexed, hsplit]
  simp [hcut.name_eq]

theorem get?_eq_some_iff :
    s.get? name = some layer ↔ layer ∈ s.layers ∧ layer.name = name := by
  unfold get?
  constructor
  · intro h
    cases hi : s.index.get? name with
    | none => simp [hi] at h
    | some i =>
      simp only [hi] at h
      have hname := (s.indexed name i).mp hi
      rw [h, Option.map_some, Option.some.injEq] at hname
      exact ⟨List.mem_of_getElem? h, hname⟩
  · rintro ⟨hmem, hname⟩
    obtain ⟨before, a, after, hsplit, hcut, hi⟩ :=
      s.exists_split (mem_names_iff.mpr ⟨layer, hmem, hname⟩)
    have ha : layer = a := by
      rw [hsplit, List.mem_append, List.mem_cons] at hmem
      rcases hmem with hb | rfl | haft
      · exact absurd hname (hcut.before_ne layer hb)
      · rfl
      · exact absurd hname (hcut.after_ne layer haft)
    simp [hi, hsplit, ha]

theorem get?_eq_none_iff : s.get? name = none ↔ name ∉ s.names := by
  rw [Option.eq_none_iff_forall_ne_some, mem_names_iff]
  constructor
  · rintro h ⟨l, hl, hname⟩
    exact h l (get?_eq_some_iff.mpr ⟨hl, hname⟩)
  · intro h l hl
    exact h ⟨l, get?_eq_some_iff.mp hl⟩

/-- The list decides what is found. -/
theorem get?_congr
    {t : LayerStack} (h : s.layers = t.layers) (name : Text) :
    s.get? name = t.get? name := by
  refine Option.ext fun layer => ?_
  rw [get?_eq_some_iff, get?_eq_some_iff, h]

/-! ## Building a stack -/

theorem layers_of_ofList
    {layers : List Layer} (h : ofList layers = .ok s) :
    s.layers = layers := by
  unfold ofList at h
  split at h
  · cases h
  · cases h
    rfl

/-- Distinct names always make a stack. -/
theorem exists_ofList
    {layers : List Layer} (h : (layers.map Layer.name).Nodup) :
    ∃ t, ofList layers = .ok t ∧ t.layers = layers := by
  obtain ⟨index, hindex⟩ := exists_indexFrom 0 Table.empty h fun _ _ => rfl
  have hok : ∃ t, ofList layers = .ok t := by
    unfold ofList
    split
    · rename_i e he
      rw [hindex] at he
      cases he
    · exact ⟨_, rfl⟩
  obtain ⟨t, ht⟩ := hok
  exact ⟨t, ht, layers_of_ofList ht⟩

/-! ## Changing a stack -/

theorem indexOf_eq
    {i : Nat} (h : s.index.get? name = some i) :
    s.indexOf name = .ok i := by
  simp [indexOf, h]

theorem insertIdx_length_append
    {α : Type} (xs ys : List α) (y : α) :
    (xs ++ ys).insertIdx xs.length y = xs ++ y :: ys := by
  induction xs with
  | nil => rfl
  | cons x xs ih => simpa using ih

/-- A new name can be inserted at any position. -/
theorem insertAt_ok
    {i : Nat} (hi : i ≤ s.layers.length) (h : layer.name ∉ s.names) :
    ∃ t, s.insertAt i layer = .ok t ∧ t.layers = s.layers.insertIdx i layer := by
  have hnodup : ((s.layers.insertIdx i layer).map Layer.name).Nodup := by
    refine ((List.perm_insertIdx layer s.layers hi).map Layer.name).nodup_iff.mpr ?_
    exact List.nodup_cons.mpr ⟨h, s.names_nodup⟩
  unfold insertAt
  rw [contains_eq_false_iff.mpr h]
  exact exists_ofList hnodup

theorem addLast_ok
    (h : layer.name ∉ s.names) :
    ∃ t, s.addLast layer = .ok t ∧ t.layers = s.layers ++ [layer] := by
  obtain ⟨t, ht, hlayers⟩ := insertAt_ok (Nat.le_refl _) h
  exact ⟨t, ht, by rw [hlayers, List.insertIdx_length_self]⟩

theorem checkAnchor_ok
    (ha : anchor ∈ s.names) (h : layer.name ∉ s.names) :
    checkAnchor anchor layer = .ok () := by
  refine if_neg ?_
  rintro rfl
  exact h ha

/-- A new name can be put right before any live one. -/
theorem addBefore_ok
    (ha : anchor ∈ s.names) (h : layer.name ∉ s.names) :
    ∃ t, s.addBefore anchor layer = .ok t ∧
      t.layers = Layer.insertBefore anchor layer s.layers := by
  obtain ⟨before, a, after, hsplit, hcut, hi⟩ := s.exists_split ha
  obtain ⟨t, ht, hlayers⟩ := insertAt_ok (i := before.length) (by simp [hsplit]) h
  refine ⟨t, ?_, ?_⟩
  · simp only [addBefore, checkAnchor_ok ha h, indexOf_eq hi, bind, Except.bind, ht]
  · rw [hlayers, hsplit, Layer.insertBefore_split hcut, insertIdx_length_append]

/-- A new name can be put right after any live one. -/
theorem addAfter_ok
    (ha : anchor ∈ s.names) (h : layer.name ∉ s.names) :
    ∃ t, s.addAfter anchor layer = .ok t ∧
      t.layers = Layer.insertAfter anchor layer s.layers := by
  obtain ⟨before, a, after, hsplit, hcut, hi⟩ := s.exists_split ha
  obtain ⟨t, ht, hlayers⟩ := insertAt_ok (i := before.length + 1) (by simp [hsplit]) h
  refine ⟨t, ?_, ?_⟩
  · simp only [addAfter, checkAnchor_ok ha h, indexOf_eq hi, bind, Except.bind, ht]
  · rw [hlayers, hsplit, Layer.insertAfter_split hcut]
    simpa using insertIdx_length_append (before ++ [a]) after layer

/-- A live layer can be replaced under its own name. -/
theorem replace_ok
    (h : layer.name ∈ s.names) :
    ∃ t old, s.replace layer.name layer = .ok (t, old) ∧
      t.layers = Layer.substitute layer.name layer s.layers := by
  obtain ⟨before, a, after, hsplit, hcut, hi⟩ := s.exists_split h
  have hset : s.layers.set before.length layer = Layer.substitute layer.name layer s.layers := by
    rw [hsplit, Layer.set_split hcut]
  have hnodup : ((s.layers.set before.length layer).map Layer.name).Nodup := by
    have hnames : (s.layers.set before.length layer).map Layer.name = s.names := by
      rw [hset, hsplit, Layer.substitute_split hcut, names, hsplit]
      simp [hcut.name_eq]
    rw [hnames]
    exact s.names_nodup
  obtain ⟨t, ht, hlayers⟩ := exists_ofList hnodup
  refine ⟨t, s.layers.getD before.length layer, ?_, hlayers.trans hset⟩
  simp [replace, indexOf_eq hi, bind, Except.bind, ht]
  rfl

/-- Any live layer can be taken out. -/
theorem remove_ok
    (h : name ∈ s.names) :
    ∃ t old, s.remove name = .ok (t, old) ∧
      t.layers = s.layers.filter fun l => l.name != name := by
  obtain ⟨before, a, after, hsplit, hcut, hi⟩ := s.exists_split h
  have herase :
      s.layers.eraseIdx before.length = s.layers.filter fun l => l.name != name := by
    rw [hsplit, Layer.eraseIdx_split hcut]
  have hnodup : ((s.layers.eraseIdx before.length).map Layer.name).Nodup := by
    rw [herase]
    exact s.names_nodup.sublist ((List.filter_sublist).map Layer.name)
  obtain ⟨t, ht, hlayers⟩ := exists_ofList hnodup
  refine ⟨t, s.layers.getD before.length default, ?_, hlayers.trans herase⟩
  simp [remove, indexOf_eq hi, bind, Except.bind, ht]
  rfl

end LayerStack

end LiveConfig
