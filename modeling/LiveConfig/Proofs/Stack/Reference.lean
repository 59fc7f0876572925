import LiveConfig.Proofs.Failing
import LiveConfig.Proofs.Stack.Basic
import LiveConfig.Stack.Call

/-!
# A stack refines a plain list

The reference of a layer stack is a list of layers with nothing beside it: a layer is found by
searching the list from its front, a change edits the list at a name, and what must not happen is
asked of the names of the list.  Forgetting the index takes a desk with a stack to a desk with such
a list, and commutes with every call, failing or not.

One call of each kind is compared first; runs of calls follow by induction, with the list as the
only thing that has to agree.

**Results.**
* `LayerStack.index_get?`, `LayerStack.get?_eq_find?`: lookups are searches of the list.
* `LayerStack.ofList_eq_error_iff`: building fails on the first name that occurs a second time.
* `LayerStack.layers_addFirst` and its siblings: each change is an edit of the list, with the same
  failures in the same order.
* `ListDesk.without_next`: a call keeps the order of the layers that it does not change.
* `StackDesk.map_listed_run`, `StackDesk.list_after`: one call, and a run of calls; together
  `StackDesk.refines_list`.
-/

namespace LiveConfig

/-! ## The reference -/

namespace LayerList

/-- The names in order. -/
def names (layers : List Layer) : List Text :=
  layers.map Layer.name

/-- The first layer of a name. -/
def find? (layers : List Layer) (name : Text) : Option Layer :=
  layers.find? fun l => l.name == name

/-- The position of the first layer of a name. -/
def position? (layers : List Layer) (name : Text) : Option Nat :=
  layers.findIdx? fun l => l.name == name

/-- The position of the first layer of a name, which must be there. -/
def indexOf (layers : List Layer) (name : Text) : Except Failure Nat :=
  (position? layers name).elim (.error (.unknownLayer name)) .ok

/-- Of some layers, the name is the first one that occurs a second time. -/
def FirstRepeat (name : Text) (layers : List Layer) : Prop :=
  ∃ before layer after,
    layers = before ++ layer :: after ∧ layer.name = name ∧
      (names before).Nodup ∧ name ∈ names before

/-- Adds a layer, whose name must be new, by an edit of the list. -/
def add (layer : Layer) (edit : List Layer → List Layer) (layers : List Layer) :
    Except Failure (List Layer) :=
  if layer.name ∈ names layers then .error (.duplicateLayer layer.name) else .ok (edit layers)

/-- Adds a layer next to another one, which must not be itself and must be there. -/
def addAt (anchor : Text) (layer : Layer) (edit : List Layer → List Layer)
    (layers : List Layer) : Except Failure (List Layer) :=
  if anchor = layer.name then .error (.selfAnchor anchor)
  else if anchor ∉ names layers then .error (.unknownLayer anchor)
  else add layer edit layers

/-- Puts a layer in the place of the one of a name and gives that one back.  The new layer may keep
the name or bring a new one, not the name of another layer. -/
def replace (name : Text) (layer : Layer) (layers : List Layer) :
    Except Failure (List Layer × Layer) :=
  match find? layers name with
  | none => .error (.unknownLayer name)
  | some old =>
    if layer.name ≠ name ∧ layer.name ∈ names layers then .error (.duplicateLayer layer.name)
    else .ok (Layer.substitute name layer layers, old)

/-- Takes the layer of a name out and gives it back. -/
def remove (name : Text) (layers : List Layer) : Except Failure (List Layer × Layer) :=
  match find? layers name with
  | none => .error (.unknownLayer name)
  | some old => .ok (layers.filter fun l => l.name != name, old)

/-- Edits the entries of the mapping of a name. -/
def editEntries (name : Text) (f : Entries → Entries) (layers : List Layer) : List Layer :=
  layers.map fun l => if l.name = name then l.editEntries f else l

/-- The entries of a mapping. -/
def mappingEntries? : Layer → Option Entries
  | .mapping _ entries _ => some entries
  | _ => none

/-- The entries of the mapping of a name. -/
def entriesOf? (layers : List Layer) (name : Text) : Option Entries :=
  (find? layers name).bind mappingEntries?

/-- Writes an entry of a mapping. -/
def putEntry (name : Text) (key value : Value) (layers : List Layer) :
    Except Failure (List Layer) :=
  match entriesOf? layers name with
  | none => .error (.unknownLayer name)
  | some _ =>
    (Layer.checkKey key).map fun _ => editEntries name (fun t => t.insert key value) layers

/-- Drops an entry of a mapping, which must be there. -/
def dropEntry (name : Text) (key : Value) (layers : List Layer) : Except Failure (List Layer) :=
  match entriesOf? layers name with
  | none => .error (.unknownLayer name)
  | some entries => do
    Layer.checkKey key
    if entries.contains key then return editEntries name (fun t => t.erase key) layers
    else .error (.missingKey key)

end LayerList

/-- A plain list of layers with the copies kept of it. -/
structure ListDesk where
  layers : List Layer
  saved : List (List Layer)

namespace ListDesk

/-- Replaces the list and answers nothing. -/
def change (d : ListDesk) (layers : Except Failure (List Layer)) :
    Except Failure (ListDesk × StackAnswer) :=
  layers.map fun l => ({ d with layers := l }, .nothing)

/-- Replaces the list and answers the layer that left it. -/
def exchange (d : ListDesk) (result : Except Failure (List Layer × Layer)) :
    Except Failure (ListDesk × StackAnswer) :=
  result.map fun (l, layer) => ({ d with layers := l }, .layer layer)

/-- Carries out a call on the list alone. -/
def run (d : ListDesk) : StackCall → Except Failure (ListDesk × StackAnswer)
  | .addFirst layer => d.change (LayerList.add layer (layer :: ·) d.layers)
  | .addLast layer => d.change (LayerList.add layer (· ++ [layer]) d.layers)
  | .addBefore anchor layer =>
    d.change (LayerList.addAt anchor layer (Layer.insertBefore anchor layer) d.layers)
  | .addAfter anchor layer =>
    d.change (LayerList.addAt anchor layer (Layer.insertAfter anchor layer) d.layers)
  | .replace name layer => d.exchange (LayerList.replace name layer d.layers)
  | .remove name => d.exchange (LayerList.remove name d.layers)
  | .indexOf name => (LayerList.indexOf d.layers name).map fun i => (d, .number i)
  | .precedenceOf name => (LayerList.indexOf d.layers name).map fun i => (d, .number i)
  | .get name =>
    match LayerList.find? d.layers name with
    | none => .ok (d, .nothing)
    | some layer => .ok (d, .layer layer)
  | .contains name => .ok (d, .truth (decide (name ∈ LayerList.names d.layers)))
  | .size => .ok (d, .number d.layers.length)
  | .names => .ok (d, .names (LayerList.names d.layers))
  | .shown =>
    .ok (d, .text ("LayerSources(" ++ Text.quotedList (LayerList.names d.layers) ++ ")"))
  | .describe => .ok (d, .layers d.layers)
  | .save => .ok ({ d with saved := d.saved ++ [d.layers] }, .number (d.saved.length + 1))
  | .saved i =>
    match d.saved[i]? with
    | none => .error .noSnapshot
    | some layers => .ok (d, .names (LayerList.names layers))
  | .put name key value => d.change (LayerList.putEntry name key value d.layers)
  | .drop name key => d.change (LayerList.dropEntry name key d.layers)

/-- The list after a call; one that fails leaves it as it is. -/
def next (d : ListDesk) (call : StackCall) : ListDesk :=
  match d.run call with
  | .ok (d', _) => d'
  | .error _ => d

/-- The list after some calls. -/
def after (d : ListDesk) (calls : List StackCall) : ListDesk :=
  calls.foldl next d

end ListDesk

/-! ## Lookups -/

namespace Layer

variable {name : Text} {layer a : Layer} {before after : List Layer}

theorem find?_split (h : SplitsAt name before a after) :
    LayerList.find? (before ++ a :: after) name = some a := by
  have hbefore : before.find? (fun l => l.name == name) = none :=
    List.find?_eq_none.mpr fun l hl => by simpa using h.before_ne l hl
  simp [LayerList.find?, List.find?_append, hbefore, h.name_eq]

theorem position?_split (h : SplitsAt name before a after) :
    LayerList.position? (before ++ a :: after) name = some before.length := by
  have hbefore : before.findIdx? (fun l => l.name == name) = none :=
    List.findIdx?_eq_none_iff.mpr fun l hl => by simpa using h.before_ne l hl
  simp [LayerList.position?, List.findIdx?_append, hbefore, List.findIdx?_cons, h.name_eq]

end Layer

namespace LayerList

variable {name : Text} {layers : List Layer}

theorem find?_eq_none (h : name ∉ names layers) : find? layers name = none :=
  List.find?_eq_none.mpr fun l hl => by
    have hne : l.name ≠ name := fun heq => h (heq ▸ List.mem_map_of_mem hl)
    simpa using hne

theorem position?_eq_none (h : name ∉ names layers) : position? layers name = none :=
  List.findIdx?_eq_none_iff.mpr fun l hl => by
    have hne : l.name ≠ name := fun heq => h (heq ▸ List.mem_map_of_mem hl)
    simpa using hne

end LayerList

namespace LayerStack

variable {s : LayerStack} {name anchor : Text} {layer : Layer} {i : Nat}

/-- The index answers what a search of the list does. -/
theorem index_get? (s : LayerStack) (name : Text) :
    s.index.get? name = LayerList.position? s.layers name := by
  by_cases h : name ∈ s.names
  · obtain ⟨before, a, after, hsplit, hcut, hi⟩ := s.exists_split h
    rw [hi, hsplit, Layer.position?_split hcut]
  · have hnone : s.index.get? name = none := by
      have := contains_eq_false_iff.mpr h
      simpa [contains, Table.contains] using this
    rw [hnone, LayerList.position?_eq_none h]

theorem get?_eq_find? (s : LayerStack) (name : Text) :
    s.get? name = LayerList.find? s.layers name := by
  by_cases h : name ∈ s.names
  · obtain ⟨before, a, after, hsplit, hcut, -⟩ := s.exists_split h
    rw [hsplit, Layer.find?_split hcut, get?_eq_some_iff, hsplit]
    exact ⟨List.mem_append_right _ List.mem_cons_self, hcut.name_eq⟩
  · rw [get?_eq_none_iff.mpr h, LayerList.find?_eq_none h]

theorem indexOf_eq_search (s : LayerStack) (name : Text) :
    s.indexOf name = LayerList.indexOf s.layers name := by
  unfold indexOf LayerList.indexOf
  rw [index_get?]
  cases LayerList.position? s.layers name <;> rfl

theorem contains_eq_decide (s : LayerStack) (name : Text) :
    s.contains name = decide (name ∈ LayerList.names s.layers) := by
  rw [Bool.eq_iff_iff, contains_iff, decide_eq_true_iff]
  rfl

end LayerStack

/-! ## Construction -/

/-- Extending an index fails only on a name, the first one that the index or an earlier layer
has. -/
theorem indexFrom_eq_error
    {layers : List Layer} {i : Nat} {index : Table Text Nat} {failure : Failure}
    (h : indexFrom i index layers = .error failure) :
    ∃ before layer after,
      layers = before ++ layer :: after ∧ failure = .duplicateLayer layer.name ∧
        (LayerList.names before).Nodup ∧ (∀ l ∈ before, index.contains l.name = false) ∧
        (index.contains layer.name = true ∨ layer.name ∈ LayerList.names before) := by
  induction layers generalizing i index with
  | nil => cases h
  | cons first rest ih =>
    unfold indexFrom at h
    split at h
    · rename_i hold
      obtain rfl := Except.error.inj h
      exact ⟨[], first, rest, rfl, rfl, List.nodup_nil, by simp, Or.inl hold⟩
    · rename_i hnew
      obtain ⟨before, layer, after, rfl, rfl, hnodup, hfresh, hrepeat⟩ := ih h
      have hinsert (n : Text) :
          (index.insert first.name i).contains n = (first.name == n || index.contains n) := by
        simp only [Table.contains, Table.get?_insert]
        by_cases hn : first.name = n <;> simp [hn]
      refine ⟨first :: before, layer, after, rfl, rfl, ?_, ?_, ?_⟩
      · refine List.nodup_cons.mpr ⟨?_, hnodup⟩
        intro hmem
        obtain ⟨l, hl, hname⟩ := List.mem_map.mp hmem
        have hfalse := hfresh l hl
        rw [hinsert, hname] at hfalse
        simp at hfalse
      · intro l hl
        rcases List.mem_cons.mp hl with rfl | hl
        · simpa using hnew
        · have hfalse := hfresh l hl
          rw [hinsert, Bool.or_eq_false_iff] at hfalse
          exact hfalse.2
      · rcases hrepeat with hindex | hmem
        · rw [hinsert, Bool.or_eq_true, beq_iff_eq] at hindex
          rcases hindex with heq | hindex
          · exact Or.inr (heq ▸ List.mem_cons_self)
          · exact Or.inl hindex
        · exact Or.inr (List.mem_cons_of_mem _ hmem)

namespace LayerList

theorem FirstRepeat.not_nodup
    {name : Text} {layers : List Layer} (h : FirstRepeat name layers) :
    ¬ (names layers).Nodup := by
  obtain ⟨before, layer, after, rfl, hname, -, hmem⟩ := h
  intro hnodup
  rw [names, List.map_append, List.map_cons, List.nodup_append] at hnodup
  exact hnodup.2.2 name hmem layer.name List.mem_cons_self hname.symm

/-- A repetition of names behind an earlier one is not the first. -/
theorem FirstRepeat.unique
    {name other : Text} {layers : List Layer}
    (h : FirstRepeat name layers) (h' : FirstRepeat other layers) : name = other := by
  obtain ⟨before, layer, after, rfl, rfl, hnodup, hmem⟩ := h
  obtain ⟨before', layer', after', hsplit, rfl, hnodup', hmem'⟩ := h'
  rcases List.append_eq_append_iff.mp hsplit with ⟨mid, rfl, hmid⟩ | ⟨mid, rfl, hmid⟩
  · cases mid with
    | nil => exact congrArg Layer.name (List.cons.inj hmid).1
    | cons l mid =>
      obtain rfl := (List.cons.inj hmid).1
      exact absurd hnodup' (FirstRepeat.not_nodup ⟨before, _, mid, rfl, rfl, hnodup, hmem⟩)
  · cases mid with
    | nil => exact (congrArg Layer.name (List.cons.inj hmid).1).symm
    | cons l mid =>
      obtain rfl := (List.cons.inj hmid).1
      exact absurd hnodup (FirstRepeat.not_nodup ⟨before', _, mid, rfl, rfl, hnodup', hmem'⟩)

/-- A layer that keeps the name of the one it replaces, or brings a new name, leaves the names
distinct. -/
theorem nodup_substitute
    {name : Text} {layer a : Layer} {before after : List Layer}
    (hnodup : (names (before ++ a :: after)).Nodup) (hcut : Layer.SplitsAt name before a after)
    (hfree : ¬ (layer.name ≠ name ∧ layer.name ∈ names (before ++ a :: after))) :
    (names (Layer.substitute name layer (before ++ a :: after))).Nodup := by
  rw [Layer.substitute_split hcut]
  simp only [names, List.map_append, List.map_cons, List.nodup_middle] at hnodup hfree ⊢
  by_cases hsame : layer.name = name
  · rwa [hsame, ← hcut.name_eq]
  · have hnew : layer.name ∉ before.map Layer.name ++ a.name :: after.map Layer.name :=
      fun hmem => hfree ⟨hsame, hmem⟩
    refine List.nodup_cons.mpr ⟨fun hmem => hnew ?_, (List.nodup_cons.mp hnodup).2⟩
    exact List.perm_middle.mem_iff.mpr (List.mem_cons_of_mem _ hmem)

end LayerList

namespace LayerStack

variable {name anchor : Text} {layer : Layer}

theorem exists_firstRepeat
    {layers : List Layer} {failure : Failure} (h : ofList layers = .error failure) :
    ∃ name, LayerList.FirstRepeat name layers ∧ failure = .duplicateLayer name := by
  have hindex : indexFrom 0 Table.empty layers = .error failure := by
    unfold ofList at h
    split at h
    · rename_i e he
      rw [he, Except.error.inj h]
    · cases h
  obtain ⟨before, layer, after, hsplit, hfailure, hnodup, -, hrepeat⟩ :=
    indexFrom_eq_error hindex
  have hmem : layer.name ∈ LayerList.names before := by
    rcases hrepeat with hempty | hmem
    · cases hempty
    · exact hmem
  exact ⟨layer.name, ⟨before, layer, after, hsplit, rfl, hnodup, hmem⟩, hfailure⟩

/-- Building a stack fails on the first name that occurs a second time, and only then. -/
theorem ofList_eq_error_iff {layers : List Layer} {failure : Failure} :
    ofList layers = .error failure ↔
      ∃ name, LayerList.FirstRepeat name layers ∧ failure = .duplicateLayer name := by
  constructor
  · exact exists_firstRepeat
  · rintro ⟨name, hfirst, rfl⟩
    cases hbuilt : ofList layers with
    | ok s =>
      have hnodup := s.names_nodup
      rw [names, layers_of_ofList hbuilt] at hnodup
      exact absurd hnodup hfirst.not_nodup
    | error failure =>
      obtain ⟨other, hother, rfl⟩ := exists_firstRepeat hbuilt
      rw [hfirst.unique hother]

/-! ## Changes -/

theorem layers_insertAt
    (s : LayerStack) {i : Nat} (hi : i ≤ s.layers.length) (layer : Layer) :
    (s.insertAt i layer).map LayerStack.layers =
      LayerList.add layer (fun layers => layers.insertIdx i layer) s.layers := by
  unfold LayerList.add
  split
  · rename_i hmem
    rw [insertAt, if_pos (contains_iff.mpr hmem)]
    rfl
  · rename_i hnew
    obtain ⟨t, ht, hlayers⟩ := insertAt_ok hi hnew
    rw [ht]
    exact congrArg Except.ok hlayers

theorem layers_addFirst (s : LayerStack) (layer : Layer) :
    (s.addFirst layer).map LayerStack.layers =
      LayerList.add layer (layer :: ·) s.layers :=
  s.layers_insertAt (Nat.zero_le _) layer

theorem layers_addLast (s : LayerStack) (layer : Layer) :
    (s.addLast layer).map LayerStack.layers =
      LayerList.add layer (· ++ [layer]) s.layers := by
  rw [addLast, s.layers_insertAt (Nat.le_refl _) layer]
  simp only [LayerList.add, List.insertIdx_length_self]

/-- Inserting at a distance from the anchor is an edit of the list at the anchor. -/
theorem layers_insertAt_anchor
    (s : LayerStack) (anchor : Text) (layer : Layer) (distance : Nat)
    {edit : List Layer → List Layer} (hdistance : distance ≤ 1)
    (hedit : ∀ before a after, Layer.SplitsAt anchor before a after →
      (before ++ a :: after).insertIdx (before.length + distance) layer =
        edit (before ++ a :: after)) :
    (do
        checkAnchor anchor layer
        let i ← s.indexOf anchor
        s.insertAt (i + distance) layer : Except Failure LayerStack).map LayerStack.layers =
      LayerList.addAt anchor layer edit s.layers := by
  unfold LayerList.addAt
  split
  · rename_i hself
    rw [checkAnchor, if_pos hself]
    rfl
  · rename_i hself
    rw [checkAnchor, if_neg hself]
    split
    · rename_i hmissing
      rw [indexOf_eq_search, LayerList.indexOf, LayerList.position?_eq_none hmissing]
      rfl
    · rename_i hlive
      obtain ⟨before, a, after, hsplit, hcut, hi⟩ := s.exists_split (not_not.mp hlive)
      have hbound : before.length + distance ≤ s.layers.length := by
        rw [hsplit, List.length_append, List.length_cons]
        omega
      rw [indexOf_eq hi]
      refine (s.layers_insertAt hbound layer).trans ?_
      simp only [LayerList.add, hsplit, hedit before a after hcut]

theorem layers_addBefore (s : LayerStack) (anchor : Text) (layer : Layer) :
    (s.addBefore anchor layer).map LayerStack.layers =
      LayerList.addAt anchor layer (Layer.insertBefore anchor layer) s.layers :=
  s.layers_insertAt_anchor anchor layer 0 (Nat.zero_le 1) fun before a after hcut => by
    rw [Layer.insertBefore_split hcut]
    exact insertIdx_length_append before (a :: after) layer

theorem layers_addAfter (s : LayerStack) (anchor : Text) (layer : Layer) :
    (s.addAfter anchor layer).map LayerStack.layers =
      LayerList.addAt anchor layer (Layer.insertAfter anchor layer) s.layers :=
  s.layers_insertAt_anchor anchor layer 1 (Nat.le_refl 1) fun before a after hcut => by
    rw [Layer.insertAfter_split hcut]
    simpa using insertIdx_length_append (before ++ [a]) after layer

/-- Forgets the index of a stack that comes with a layer. -/
def dropIndex (result : LayerStack × Layer) : List Layer × Layer :=
  (result.1.layers, result.2)

theorem dropIndex_ofList
    {layers : List Layer} (h : (LayerList.names layers).Nodup) (old : Layer) :
    (do let stack ← ofList layers; return (stack, old) :
      Except Failure (LayerStack × Layer)).map dropIndex = .ok (layers, old) := by
  obtain ⟨t, ht, hlayers⟩ := exists_ofList h
  rw [ht]
  exact congrArg (fun l => Except.ok (l, old)) hlayers

theorem dropIndex_replace (s : LayerStack) (name : Text) (layer : Layer) :
    (s.replace name layer).map dropIndex = LayerList.replace name layer s.layers := by
  unfold replace LayerList.replace
  by_cases hname : name ∈ s.names
  · obtain ⟨before, a, after, hsplit, hcut, hi⟩ := s.exists_split hname
    have hfind : LayerList.find? s.layers name = some a := by
      rw [hsplit, Layer.find?_split hcut]
    have hset : s.layers.set before.length layer = Layer.substitute name layer s.layers := by
      rw [hsplit, Layer.set_split hcut]
    have hold : s.layers.getD before.length layer = a := by simp [hsplit]
    rw [indexOf_eq hi, hfind]
    have hcontains : s.contains layer.name = true ↔ layer.name ∈ LayerList.names s.layers :=
      contains_iff
    simp only [ok_bind, hcontains]
    split
    · rfl
    · rename_i hfree
      have hnodup := s.names_nodup
      rw [names, hsplit] at hnodup
      rw [hsplit] at hfree
      rw [hold, hset]
      refine dropIndex_ofList ?_ a
      rw [hsplit]
      exact LayerList.nodup_substitute hnodup hcut hfree
  · rw [indexOf_eq_search, LayerList.indexOf, LayerList.position?_eq_none hname,
      LayerList.find?_eq_none hname]
    rfl

theorem dropIndex_remove (s : LayerStack) (name : Text) :
    (s.remove name).map dropIndex = LayerList.remove name s.layers := by
  unfold remove LayerList.remove
  by_cases hname : name ∈ s.names
  · obtain ⟨before, a, after, hsplit, hcut, hi⟩ := s.exists_split hname
    have hfind : LayerList.find? s.layers name = some a := by
      rw [hsplit, Layer.find?_split hcut]
    have herase :
        s.layers.eraseIdx before.length = s.layers.filter fun l => l.name != name := by
      rw [hsplit, Layer.eraseIdx_split hcut]
    have hold : s.layers.getD before.length default = a := by simp [hsplit]
    have hnodup : (LayerList.names (s.layers.filter fun l => l.name != name)).Nodup :=
      s.names_nodup.sublist (List.filter_sublist.map Layer.name)
    rw [indexOf_eq hi, hfind]
    simp only [ok_bind, herase, hold]
    exact dropIndex_ofList hnodup a
  · rw [indexOf_eq_search, LayerList.indexOf, LayerList.position?_eq_none hname,
      LayerList.find?_eq_none hname]
    rfl

end LayerStack

/-! ## One call -/

namespace StackDesk

/-- A desk without its index. -/
def list (d : StackDesk) : ListDesk :=
  ⟨d.stack.layers, d.saved⟩

@[simp]
theorem list_layers (d : StackDesk) : d.list.layers = d.stack.layers := rfl

/-- The outcome of a call without the index. -/
def listed (result : StackDesk × StackAnswer) : ListDesk × StackAnswer :=
  (result.1.list, result.2)

/-- The desk after a call; one that fails leaves it as it is. -/
def next (d : StackDesk) (call : StackCall) : StackDesk :=
  match d.run call with
  | .ok (d', _) => d'
  | .error _ => d

/-- The desk after some calls. -/
def after (d : StackDesk) (calls : List StackCall) : StackDesk :=
  calls.foldl next d

variable {d : StackDesk}

theorem map_listed_change
    {stack : Except Failure LayerStack} {layers : Except Failure (List Layer)}
    (h : stack.map LayerStack.layers = layers) :
    (d.change stack).map listed = d.list.change layers := by
  subst h
  cases stack <;> rfl

theorem map_listed_exchange
    {result : Except Failure (LayerStack × Layer)}
    {expected : Except Failure (List Layer × Layer)}
    (h : result.map LayerStack.dropIndex = expected) :
    (d.exchange result).map listed = d.list.exchange expected := by
  subst h
  cases result <;> rfl

theorem map_listed_indexOf (name : Text) :
    ((d.stack.indexOf name).map fun i => (d, StackAnswer.number i)).map listed =
      (LayerList.indexOf d.list.layers name).map fun i => (d.list, StackAnswer.number i) := by
  rw [d.stack.indexOf_eq_search name, list_layers]
  cases LayerList.indexOf d.stack.layers name <;> rfl

theorem entriesOf?_eq (s : LayerStack) (name : Text) :
    entriesOf? s name = LayerList.entriesOf? s.layers name := by
  unfold entriesOf? LayerList.entriesOf?
  rw [s.get?_eq_find?]
  cases LayerList.find? s.layers name with
  | none => rfl
  | some layer => cases layer <;> rfl

theorem layers_putEntry (s : LayerStack) (name : Text) (key value : Value) :
    (putEntry s name key value).map LayerStack.layers =
      LayerList.putEntry name key value s.layers := by
  unfold putEntry LayerList.putEntry
  rw [entriesOf?_eq]
  cases LayerList.entriesOf? s.layers name with
  | none => rfl
  | some entries => cases Layer.checkKey key <;> rfl

theorem layers_dropEntry (s : LayerStack) (name : Text) (key : Value) :
    (dropEntry s name key).map LayerStack.layers = LayerList.dropEntry name key s.layers := by
  unfold dropEntry LayerList.dropEntry
  rw [entriesOf?_eq]
  cases LayerList.entriesOf? s.layers name with
  | none => rfl
  | some entries =>
    cases Layer.checkKey key with
    | error failure => rfl
    | ok _ =>
      simp only [ok_bind]
      split <;> rfl

/-- A call on a desk does and answers what it does and answers on the plain list. -/
theorem map_listed_run (d : StackDesk) (call : StackCall) :
    (d.run call).map listed = d.list.run call := by
  cases call with
  | addFirst layer => exact map_listed_change (d.stack.layers_addFirst layer)
  | addLast layer => exact map_listed_change (d.stack.layers_addLast layer)
  | addBefore anchor layer => exact map_listed_change (d.stack.layers_addBefore anchor layer)
  | addAfter anchor layer => exact map_listed_change (d.stack.layers_addAfter anchor layer)
  | replace name layer => exact map_listed_exchange (d.stack.dropIndex_replace name layer)
  | remove name => exact map_listed_exchange (d.stack.dropIndex_remove name)
  | indexOf name => exact map_listed_indexOf name
  | precedenceOf name => exact map_listed_indexOf name
  | get name =>
    simp only [run, ListDesk.run, list, d.stack.get?_eq_find? name]
    cases LayerList.find? d.stack.layers name <;> rfl
  | contains name =>
    simp only [run, ListDesk.run, list, d.stack.contains_eq_decide name]
    rfl
  | size => rfl
  | names => rfl
  | shown => rfl
  | describe => rfl
  | save => rfl
  | saved i =>
    simp only [run, ListDesk.run, list]
    cases d.saved[i]? <;> rfl
  | put name key value => exact map_listed_change (layers_putEntry d.stack name key value)
  | drop name key => exact map_listed_change (layers_dropEntry d.stack name key)

/-! ## Runs of calls -/

theorem list_next (d : StackDesk) (call : StackCall) : (d.next call).list = d.list.next call := by
  unfold next ListDesk.next
  rw [← d.map_listed_run call]
  cases d.run call <;> rfl

theorem list_after (d : StackDesk) (calls : List StackCall) :
    (d.after calls).list = d.list.after calls := by
  induction calls generalizing d with
  | nil => rfl
  | cons call rest ih =>
    have hstep : (d.next call).list = d.list.next call := d.list_next call
    calc (d.after (call :: rest)).list = ((d.next call).after rest).list := rfl
      _ = (d.next call).list.after rest := ih _
      _ = d.list.after (call :: rest) := by rw [hstep]; rfl

end StackDesk

/-! ## What a call leaves alone -/

/-- The names that a call changes something at. -/
def StackCall.changed : StackCall → List Text
  | addFirst layer | addLast layer | addBefore _ layer | addAfter _ layer => [layer.name]
  | replace name layer => [name, layer.name]
  | remove name | put name _ _ | drop name _ => [name]
  | _ => []

namespace LayerList

/-- The layers of other names, in order. -/
def without (excluded : List Text) (layers : List Layer) : List Layer :=
  layers.filter fun l => decide (l.name ∉ excluded)

variable {excluded : List Text} {layers : List Layer} {name : Text} {layer : Layer}

theorem without_append (xs ys : List Layer) :
    without excluded (xs ++ ys) = without excluded xs ++ without excluded ys :=
  List.filter_append xs ys

theorem without_singleton (h : layer.name ∈ excluded) : without excluded [layer] = [] := by
  simp [without, h]

/-- An edit at a name that only touches excluded layers keeps the others. -/
theorem without_expand
    {f : Layer → List Layer}
    (h : ∀ l, l.name = name → without excluded (f l) = without excluded [l]) :
    without excluded (Layer.expand name f layers) = without excluded layers := by
  induction layers with
  | nil => rfl
  | cons l rest ih =>
    have hhead : without excluded (if l.name = name then f l else [l]) = without excluded [l] := by
      split
      · exact h l ‹_›
      · rfl
    rw [Layer.expand_cons, without_append, hhead, ih, ← without_append]
    rfl

theorem without_editEntries {f : Entries → Entries} (h : name ∈ excluded) :
    without excluded (editEntries name f layers) = without excluded layers := by
  have hexpand : editEntries name f layers =
      Layer.expand name (fun l => [l.editEntries f]) layers := by
    unfold editEntries Layer.expand
    rw [List.map_eq_flatMap]
    refine congrArg (layers.flatMap ·) (funext fun l => ?_)
    split <;> rfl
  rw [hexpand]
  refine without_expand fun l hl => ?_
  rw [without_singleton (by rwa [Layer.name_editEntries, hl]), without_singleton (by rwa [hl])]

/-- Layers of excluded names at either end do not count. -/
theorem without_cons (h : layer.name ∈ excluded) :
    without excluded (layer :: layers) = without excluded layers := by
  rw [← List.singleton_append, without_append, without_singleton h, List.nil_append]

theorem without_concat (h : layer.name ∈ excluded) :
    without excluded (layers ++ [layer]) = without excluded layers := by
  rw [without_append, without_singleton h, List.append_nil]

theorem without_insertBefore (h : layer.name ∈ excluded) :
    without excluded (Layer.insertBefore name layer layers) = without excluded layers :=
  without_expand fun _ _ => without_cons h

theorem without_insertAfter (h : layer.name ∈ excluded) :
    without excluded (Layer.insertAfter name layer layers) = without excluded layers :=
  without_expand fun l _ => show without excluded ([l] ++ [layer]) = _ from without_concat h

theorem without_substitute (hname : name ∈ excluded) (h : layer.name ∈ excluded) :
    without excluded (Layer.substitute name layer layers) = without excluded layers :=
  without_expand fun l hl => by rw [without_singleton h, without_singleton (hl ▸ hname)]

theorem without_filter_ne (h : name ∈ excluded) :
    without excluded (layers.filter fun l => l.name != name) = without excluded layers := by
  unfold without
  rw [List.filter_filter]
  refine List.filter_congr fun l _ => ?_
  by_cases hl : l.name = name
  · simp [hl, h]
  · simp [hl]

/-! A change that succeeds has edited the list. -/

theorem eq_of_add
    {edit : List Layer → List Layer} {result : List Layer}
    (h : add layer edit layers = .ok result) : result = edit layers := by
  unfold add at h
  split at h
  · cases h
  · exact (Except.ok.inj h).symm

theorem eq_of_addAt
    {anchor : Text} {edit : List Layer → List Layer} {result : List Layer}
    (h : addAt anchor layer edit layers = .ok result) : result = edit layers := by
  unfold addAt at h
  split at h
  · cases h
  · split at h
    · cases h
    · exact eq_of_add h

theorem eq_of_replace
    {result : List Layer} {old : Layer} (h : replace name layer layers = .ok (result, old)) :
    result = Layer.substitute name layer layers := by
  unfold replace at h
  split at h
  · cases h
  · split at h
    · cases h
    · exact (Prod.mk.inj (Except.ok.inj h)).1.symm

theorem eq_of_remove
    {result : List Layer} {old : Layer} (h : remove name layers = .ok (result, old)) :
    result = layers.filter fun l => l.name != name := by
  unfold remove at h
  split at h
  · cases h
  · exact (Prod.mk.inj (Except.ok.inj h)).1.symm

theorem eq_of_putEntry
    {key value : Value} {result : List Layer} (h : putEntry name key value layers = .ok result) :
    ∃ f, result = editEntries name f layers := by
  unfold putEntry at h
  split at h
  · cases h
  · obtain ⟨-, -, rfl⟩ := exists_ok_of_map h
    exact ⟨_, rfl⟩

theorem eq_of_dropEntry
    {key : Value} {result : List Layer} (h : dropEntry name key layers = .ok result) :
    ∃ f, result = editEntries name f layers := by
  unfold dropEntry at h
  split at h
  · cases h
  · obtain ⟨-, -, hdrop⟩ := exists_ok_of_bind h
    split at hdrop
    · obtain rfl := Except.ok.inj hdrop
      exact ⟨_, rfl⟩
    · cases hdrop

end LayerList

namespace ListDesk

variable {d d' : ListDesk} {answer : StackAnswer}

theorem of_change {layers : Except Failure (List Layer)} (h : d.change layers = .ok (d', answer)) :
    layers = .ok d'.layers := by
  obtain ⟨l, hl, hd⟩ := exists_ok_of_map h
  rw [hl, ← (Prod.mk.inj hd).1]

theorem of_exchange
    {result : Except Failure (List Layer × Layer)} (h : d.exchange result = .ok (d', answer)) :
    ∃ old, result = .ok (d'.layers, old) := by
  obtain ⟨⟨l, old⟩, hl, hd⟩ := exists_ok_of_map h
  exact ⟨old, by rw [hl, ← (Prod.mk.inj hd).1]⟩

theorem eq_of_answer
    {x : Except Failure Nat}
    (h : (x.map fun i => (d, StackAnswer.number i)) = .ok (d', answer)) : d' = d := by
  obtain ⟨i, -, hd⟩ := exists_ok_of_map h
  exact (Prod.mk.inj hd).1.symm

open LayerList in
/-- A call that succeeds keeps the layers of the names that it does not change anything at. -/
theorem without_run {call : StackCall} (h : d.run call = .ok (d', answer)) :
    without call.changed d'.layers = without call.changed d.layers := by
  cases call with
  | addFirst layer =>
    rw [eq_of_add (of_change h)]
    exact without_cons List.mem_cons_self
  | addLast layer =>
    rw [eq_of_add (of_change h)]
    exact without_concat List.mem_cons_self
  | addBefore anchor layer =>
    rw [eq_of_addAt (of_change h)]
    exact without_insertBefore List.mem_cons_self
  | addAfter anchor layer =>
    rw [eq_of_addAt (of_change h)]
    exact without_insertAfter List.mem_cons_self
  | replace name layer =>
    obtain ⟨old, hold⟩ := of_exchange h
    rw [eq_of_replace hold]
    exact without_substitute List.mem_cons_self (List.mem_cons_of_mem _ List.mem_cons_self)
  | remove name =>
    obtain ⟨old, hold⟩ := of_exchange h
    rw [eq_of_remove hold]
    exact without_filter_ne List.mem_cons_self
  | put name key value =>
    obtain ⟨f, hf⟩ := eq_of_putEntry (of_change h)
    rw [hf]
    exact without_editEntries List.mem_cons_self
  | drop name key =>
    obtain ⟨f, hf⟩ := eq_of_dropEntry (of_change h)
    rw [hf]
    exact without_editEntries List.mem_cons_self
  | indexOf name => rw [eq_of_answer h]
  | precedenceOf name => rw [eq_of_answer h]
  | get name =>
    simp only [run] at h
    split at h <;> cases h <;> rfl
  | saved i =>
    simp only [run] at h
    split at h <;> cases h
    rfl
  | save => cases h; rfl
  | contains name => cases h; rfl
  | size => cases h; rfl
  | names => cases h; rfl
  | shown => cases h; rfl
  | describe => cases h; rfl

theorem without_next (d : ListDesk) (call : StackCall) :
    LayerList.without call.changed (d.next call).layers =
      LayerList.without call.changed d.layers := by
  unfold next
  split
  · exact without_run ‹_›
  · rfl

end ListDesk

/-! ## The refinement -/

/-- A layer stack is a plain list of layers with distinct names, through any run of calls.  It is
built unless a name occurs a second time, and names the first one that does.  After any calls, of
which some may have failed, it holds the layers that the list holds, its names are distinct, its
index finds what a search of the list finds, and the next call answers, fails and changes the layers
as it does on the list; it keeps the other layers in their order. -/
theorem StackDesk.refines_list (layers : List Layer) :
    (∀ failure, LayerStack.ofList layers = .error failure ↔
      ∃ name, LayerList.FirstRepeat name layers ∧ failure = .duplicateLayer name) ∧
    ∀ stack, LayerStack.ofList layers = .ok stack →
      ∀ (calls : List StackCall) (call : StackCall),
        let desk := (StackDesk.ofStack stack).after calls
        desk.list = (ListDesk.mk layers []).after calls ∧
        desk.stack.names.Nodup ∧
        (∀ name, desk.stack.index.get? name = LayerList.position? desk.stack.layers name) ∧
        (desk.run call).map StackDesk.listed = desk.list.run call ∧
        (desk.next call).list = desk.list.next call ∧
        LayerList.without call.changed (desk.next call).stack.layers =
          LayerList.without call.changed desk.stack.layers := by
  refine ⟨fun failure => LayerStack.ofList_eq_error_iff, ?_⟩
  intro stack hstack calls call desk
  have hlist : desk.list = (ListDesk.mk layers []).after calls := by
    rw [StackDesk.list_after, ← LayerStack.layers_of_ofList hstack]
    rfl
  have hnext : (desk.next call).list = desk.list.next call := desk.list_next call
  refine ⟨hlist, desk.stack.names_nodup, desk.stack.index_get?, desk.map_listed_run call, hnext,
    ?_⟩
  rw [← StackDesk.list_layers, ← StackDesk.list_layers, hnext]
  exact ListDesk.without_next desk.list call

/-- A layer cannot take the name of another one, and what failed is not seen later. -/
theorem StackDesk.refines_list_example :
    let a := Layer.ofChildren "a" []
    let b := Layer.ofChildren "b" []
    let c := Layer.ofChildren "c" []
    ∃ stack, LayerStack.ofList [a, b] = .ok stack ∧
      let desk := (StackDesk.ofStack stack).after
        [.replace "a" b, .addBefore "b" c, .addAfter "b" b, .remove "a"]
      (desk.run (.replace "c" a)).map StackDesk.listed =
        .ok (⟨[a, b], []⟩, .layer c) := by
  intro a b c
  have hnodup : ([a, b].map Layer.name).Nodup := by decide
  obtain ⟨stack, hstack, -⟩ := LayerStack.exists_ofList hnodup
  refine ⟨stack, hstack, ?_⟩
  intro desk
  obtain ⟨hlist, -, -, hrun, -⟩ := (StackDesk.refines_list [a, b]).2 stack hstack
    [.replace "a" b, .addBefore "b" c, .addAfter "b" b, .remove "a"] (.replace "c" a)
  rw [hrun, hlist]
  rfl

end LiveConfig
