import LiveConfig.Layer.Basic

/-!
# Layer stacks

A stack is an ordered list of layers with pairwise different names, highest precedence first,
together with an index from names to positions.  Every change builds the index anew, and
building it fails on a name that occurs twice.

**Results.** `indexFrom` maps exactly the names of the list to their positions, so the index of
a stack always answers what a search of the list would.
-/

namespace LiveConfig

/-- Extends an index by the names of some layers, the first of which stands at position `i`. -/
def indexFrom (i : Nat) (index : Table Text Nat) :
    List Layer → Except Failure (Table Text Nat)
  | [] => .ok index
  | layer :: rest =>
    if index.contains layer.name then .error (.duplicateLayer layer.name)
    else indexFrom (i + 1) (index.insert layer.name i) rest

/-- An index maps exactly the names of some layers to their positions. -/
def Indexes (index : Table Text Nat) (layers : List Layer) : Prop :=
  ∀ name i, index.get? name = some i ↔ (layers[i]?).map Layer.name = some name

theorem get?_of_indexFrom
    {layers : List Layer} {i : Nat} {index result : Table Text Nat}
    (h : indexFrom i index layers = .ok result) (name : Text) (j : Nat) :
    result.get? name = some j ↔
      index.get? name = some j ∨
        ∃ k, j = i + k ∧ (layers[k]?).map Layer.name = some name := by
  induction layers generalizing i index with
  | nil =>
    obtain rfl : index = result := by simpa [indexFrom] using h
    simp
  | cons layer rest ih =>
    unfold indexFrom at h
    split at h
    · cases h
    · rename_i hnew
      have hnone : index.get? layer.name = none := by
        simpa [Table.contains] using hnew
      rw [ih h, Table.get?_insert]
      constructor
      · rintro (hins | ⟨k, rfl, hk⟩)
        · by_cases hname : layer.name = name
          · subst hname
            have hij : i = j := by simpa using hins
            exact Or.inr ⟨0, by omega, by simp⟩
          · exact Or.inl (by simpa [hname] using hins)
        · exact Or.inr ⟨k + 1, by omega, by simpa using hk⟩
      · rintro (hold | ⟨k, rfl, hk⟩)
        · have hne : layer.name ≠ name := by
            rintro rfl
            rw [hnone] at hold
            cases hold
          exact Or.inl (by simpa [hne] using hold)
        · cases k with
          | zero =>
            have hname : layer.name = name := by simpa using hk
            exact Or.inl (by simp [hname])
          | succ k => exact Or.inr ⟨k, by omega, by simpa using hk⟩

/-- An ordered list of uniquely named layers. -/
structure LayerStack where
  layers : List Layer
  index : Table Text Nat
  indexed : Indexes index layers

namespace LayerStack

/-- The stack without layers. -/
def empty : LayerStack :=
  ⟨[], Table.empty, fun _ _ => by simp [Table.get?, Table.empty, firstValue?]⟩

instance : Inhabited LayerStack := ⟨empty⟩

/-- A stack of the given layers; fails on the first name that occurs a second time. -/
def ofList (layers : List Layer) : Except Failure LayerStack :=
  match h : indexFrom 0 Table.empty layers with
  | .error e => .error e
  | .ok index =>
    .ok ⟨layers, index, fun name i => by
      rw [get?_of_indexFrom h]
      simp [Table.get?, Table.empty, firstValue?]⟩

/-- The names in order. -/
def names (s : LayerStack) : List Text :=
  s.layers.map Layer.name

def size (s : LayerStack) : Nat :=
  s.layers.length

def contains (s : LayerStack) (name : Text) : Bool :=
  s.index.contains name

/-- The layer of a name. -/
def get? (s : LayerStack) (name : Text) : Option Layer :=
  match s.index.get? name with
  | none => none
  | some i => s.layers[i]?

/-- The position of a name. -/
def indexOf (s : LayerStack) (name : Text) : Except Failure Nat :=
  match s.index.get? name with
  | none => .error (.unknownLayer name)
  | some i => .ok i

/-- Lower numbers take precedence. -/
def precedenceOf (s : LayerStack) (name : Text) : Except Failure Nat :=
  s.indexOf name

/-- Inserts a layer at a position. -/
def insertAt (s : LayerStack) (i : Nat) (layer : Layer) : Except Failure LayerStack :=
  if s.contains layer.name then .error (.duplicateLayer layer.name)
  else ofList (s.layers.insertIdx i layer)

/-- Inserts a layer with the highest precedence. -/
def addFirst (s : LayerStack) (layer : Layer) : Except Failure LayerStack :=
  s.insertAt 0 layer

/-- Appends a layer with the lowest precedence. -/
def addLast (s : LayerStack) (layer : Layer) : Except Failure LayerStack :=
  s.insertAt s.layers.length layer

/-- A layer cannot be placed relative to itself. -/
def checkAnchor (anchor : Text) (layer : Layer) : Except Failure Unit :=
  if anchor = layer.name then .error (.selfAnchor anchor) else .ok ()

/-- Inserts a layer right before the anchor. -/
def addBefore (s : LayerStack) (anchor : Text) (layer : Layer) : Except Failure LayerStack := do
  checkAnchor anchor layer
  let i ← s.indexOf anchor
  s.insertAt i layer

/-- Inserts a layer right after the anchor. -/
def addAfter (s : LayerStack) (anchor : Text) (layer : Layer) : Except Failure LayerStack := do
  checkAnchor anchor layer
  let i ← s.indexOf anchor
  s.insertAt (i + 1) layer

/-- Puts a layer in the place of another one and gives that one back. -/
def replace (s : LayerStack) (name : Text) (layer : Layer) :
    Except Failure (LayerStack × Layer) := do
  let i ← s.indexOf name
  if layer.name ≠ name ∧ s.contains layer.name then .error (.duplicateLayer layer.name)
  else
    let stack ← ofList (s.layers.set i layer)
    return (stack, s.layers.getD i layer)

/-- Takes a layer out and gives it back. -/
def remove (s : LayerStack) (name : Text) : Except Failure (LayerStack × Layer) := do
  let i ← s.indexOf name
  let stack ← ofList (s.layers.eraseIdx i)
  return (stack, s.layers.getD i default)

end LayerStack

namespace Layer

/-- Edits the entries of a mapping; other layers stay as they are. -/
def editEntries (f : Entries → Entries) : Layer → Layer
  | mapping name entries faults => mapping name (f entries) faults
  | layer => layer

@[simp]
theorem name_editEntries (f : Entries → Entries) (layer : Layer) :
    (layer.editEntries f).name = layer.name := by
  cases layer <;> rfl

end Layer

namespace LayerStack

/-- Edits the entries of the mapping of a name in place. -/
def editEntries (s : LayerStack) (name : Text) (f : Entries → Entries) : LayerStack where
  layers := s.layers.map fun layer => if layer.name = name then layer.editEntries f else layer
  index := s.index
  indexed := fun n i => by
    rw [s.indexed n i, List.getElem?_map]
    cases s.layers[i]? with
    | none => rfl
    | some layer =>
      simp only [Option.map_some]
      split <;> simp

end LayerStack

end LiveConfig
