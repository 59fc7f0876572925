import LiveConfig.Layer.Extract
import LiveConfig.Proofs.Table
import Mathlib.Data.List.DropRight

/-!
# Layer trees

Layers form trees, whose leaves are mappings and lookups.  This module says what stands in a tree,
independently of how it is read.

* `Layer.everywhere` lifts a property of one layer to all layers of a tree.
* `Layer.obstacle?` is what keeps a single layer from being enumerated.
* `Layer.tablesIn` and `Layer.entriesIn` list the mappings of some trees and their entries, depth
  first from the first layer to the last.
* `Layer.prune` and `Layer.pruneTops` leave the readable part of a tree.

**Results.**
* `Layer.pruneChildren_eq`: pruning children keeps those after the last unreadable mapping.
* `Layer.prune_eq_self`, `Layer.pruneTops_eq_outside`: a tree that can be enumerated everywhere is
  pruned of nothing.
-/

namespace LiveConfig

namespace Layer

/-! ## Properties of all layers of a tree -/

mutual

/-- Whether a layer and all layers inside it have a property. -/
def everywhere (p : Layer → Bool) : Layer → Bool
  | mapping name entries faults => p (mapping name entries faults)
  | lookup name entries faults => p (lookup name entries faults)
  | composite name children fault =>
    p (composite name children fault) && everywhereIn p children

/-- Whether some layers and all layers inside them have a property. -/
def everywhereIn (p : Layer → Bool) : List Layer → Bool
  | [] => true
  | child :: rest => everywhere p child && everywhereIn p rest

end

theorem everywhereIn_iff
    {p : Layer → Bool} {layers : List Layer} :
    everywhereIn p layers = true ↔ ∀ layer ∈ layers, layer.everywhere p = true := by
  induction layers with
  | nil => simp [everywhereIn]
  | cons layer rest ih => simp [everywhereIn, ih]

theorem everywhere_composite_iff
    {p : Layer → Bool} {name : Text} {children : List Layer} {fault : Option ListingFault} :
    (composite name children fault).everywhere p = true ↔
      p (composite name children fault) = true ∧ everywhereIn p children = true := by
  rw [everywhere, Bool.and_eq_true]

/-- The layer itself is one of those that have the property. -/
theorem everywhere_self
    {p : Layer → Bool} {layer : Layer}
    (h : layer.everywhere p = true) :
    p layer = true := by
  cases layer with
  | mapping name entries faults => exact h
  | lookup name entries faults => exact h
  | composite name children fault => exact (everywhere_composite_iff.mp h).1

mutual

theorem everywhere_mono
    {p q : Layer → Bool} (hpq : ∀ layer, p layer = true → q layer = true) :
    ∀ {layer : Layer}, layer.everywhere p = true → layer.everywhere q = true
  | mapping _ _ _, h => hpq _ h
  | lookup _ _ _, h => hpq _ h
  | composite name children fault, h => by
    obtain ⟨hself, hchildren⟩ := everywhere_composite_iff.mp h
    exact everywhere_composite_iff.mpr ⟨hpq _ hself, everywhereIn_mono hpq hchildren⟩

theorem everywhereIn_mono
    {p q : Layer → Bool} (hpq : ∀ layer, p layer = true → q layer = true) :
    ∀ {layers : List Layer}, everywhereIn p layers = true → everywhereIn q layers = true
  | [], _ => rfl
  | child :: rest, h => by
    obtain ⟨hchild, hrest⟩ := (Bool.and_eq_true _ _).mp h
    exact (Bool.and_eq_true _ _).mpr
      ⟨everywhere_mono hpq hchild, everywhereIn_mono hpq hrest⟩

end

/-! ## Enumerating a single layer -/

def isLookup : Layer → Bool
  | lookup _ _ _ => true
  | _ => false

/--
What keeps a layer from being enumerated: the failure of listing its keys or its children, or
else of reading the first of its listed keys that cannot be read.
-/
def obstacle? : Layer → Option Failure
  | mapping _ entries faults =>
    match faults.listing with
    | some fault => some fault.failure
    | none => entries.entries.findSome? fun e => faults.failure? e.1
  | lookup _ _ _ => none
  | composite _ _ fault => fault.map ListingFault.failure

/-- Whether nothing but an ordinary failure keeps a layer from being enumerated. -/
def failsOrdinarily (layer : Layer) : Bool :=
  layer.obstacle?.all Failure.isOrdinary

/-- Whether all that stands in a layer can be enumerated. -/
def isEnumerable (layer : Layer) : Bool :=
  !layer.isLookup && layer.obstacle?.isNone

/-- Whether a layer is a mapping with keys that cannot be listed or read. -/
def isUnreadable : Layer → Bool
  | mapping name entries faults => (mapping name entries faults).obstacle?.isSome
  | _ => false

theorem failsOrdinarily_of_isEnumerable
    {layer : Layer} (h : layer.isEnumerable = true) :
    layer.failsOrdinarily = true := by
  have hnone : layer.obstacle? = none :=
    Option.isNone_iff_eq_none.mp ((Bool.and_eq_true _ _).mp h).2
  simp [failsOrdinarily, hnone]

/-- Reading all entries of a mapping meets its obstacle, an ordinary one under the layer's name. -/
theorem readAll_eq
    (name : Text) (entries : Entries) (faults : ReadFaults) :
    readAll name entries faults =
      match (mapping name entries faults).obstacle? with
      | none => .ok entries.entries
      | some failure =>
        .error (if failure.isOrdinary then .unlistable name failure.message else failure) := by
  obtain ⟨keys, listing⟩ := faults
  cases listing with
  | some fault =>
    cases hord : fault.failure.isOrdinary <;>
      simp [readAll, keysOf, obstacle?, hord, bind, Except.bind]
  | none =>
    have hfind :
        entries.entries.findSome? (fun e => entryFailure? name ⟨keys, none⟩ e.1) =
          (entries.entries.findSome? fun e => ReadFaults.failure? ⟨keys, none⟩ e.1).map
            fun failure =>
              if failure.isOrdinary then .unlistable name failure.message else failure := by
      rw [List.map_findSome?]
      rfl
    simp only [readAll, keysOf, obstacle?, bind, Except.bind, hfind]
    cases entries.entries.findSome? fun e => ReadFaults.failure? ⟨keys, none⟩ e.1 <;> rfl

/-! ## What stands in a tree -/

mutual

/-- The entries of the mappings of a tree, depth first. -/
def tables : Layer → List Entries
  | mapping _ entries _ => [entries]
  | lookup _ _ _ => []
  | composite _ children _ => tablesIn children

/-- The entries of the mappings of some trees, from the first layer to the last. -/
def tablesIn : List Layer → List Entries
  | [] => []
  | child :: rest => tables child ++ tablesIn rest

end

/-- All mapping entries of some trees, read depth first from the first layer to the last. -/
def entriesIn (layers : List Layer) : List (Value × Value) :=
  (tablesIn layers).flatMap Table.entries

@[simp]
theorem entriesIn_nil : entriesIn [] = [] := rfl

theorem entriesIn_cons
    (layer : Layer) (rest : List Layer) :
    entriesIn (layer :: rest) = layer.tables.flatMap Table.entries ++ entriesIn rest := by
  simp [entriesIn, tablesIn]

/-- An entry of some trees stands in one of them. -/
theorem mem_entriesIn
    {e : Value × Value} {layers : List Layer} :
    e ∈ entriesIn layers ↔ ∃ layer ∈ layers, e ∈ entriesIn [layer] := by
  induction layers with
  | nil => simp
  | cons layer rest ih => simp [entriesIn_cons, ih]

/-! ## The readable part of a tree -/

mutual

/--
What of a layer can be read: nothing of a composite whose children cannot be listed, and in
every other composite only the children after the last unreadable mapping, without lookups and
pruned themselves.
-/
def prune : Layer → Layer
  | mapping name entries faults => mapping name entries faults
  | lookup name entries faults => lookup name entries faults
  | composite name children fault =>
    match fault with
    | some _ => composite name [] none
    | none => composite name (pruneChildren children) none

/-- The readable children of a composite. -/
def pruneChildren : List Layer → List Layer
  | [] => []
  | child :: rest =>
    if (child :: rest).any isUnreadable || child.isLookup then pruneChildren rest
    else prune child :: pruneChildren rest

end

/--
The readable part of some layers: those that are neither excluded, lookups nor unreadable
mappings, pruned.
-/
def pruneTops (excluded : List Text) (layers : List Layer) : List Layer :=
  (layers.filter fun layer =>
    !(excluded.contains layer.name || layer.isLookup || layer.isUnreadable)).map prune

/-- Cutting off all but the last members that agree with a test, member by member. -/
theorem rtakeWhile_cons
    {α : Type} (p : α → Bool) (x : α) (xs : List α) :
    (x :: xs).rtakeWhile p = if (x :: xs).all p then x :: xs else xs.rtakeWhile p := by
  by_cases hall : (x :: xs).all p = true
  · rw [if_pos hall]
    exact List.rtakeWhile_eq_self_iff.mpr (List.all_eq_true.mp hall)
  · rw [if_neg hall]
    unfold List.rtakeWhile
    rw [List.reverse_cons, List.takeWhile_append]
    split
    · rename_i hlen
      have hxs : ∀ y ∈ xs, p y = true := by
        have hpre : xs.reverse.takeWhile p = xs.reverse :=
          (List.takeWhile_prefix p).eq_of_length hlen
        intro y hy
        exact List.takeWhile_eq_self_iff.mp hpre y (List.mem_reverse.mpr hy)
      have hx : ¬p x = true := by
        intro hx
        exact hall (List.all_eq_true.mpr (List.forall_mem_cons.mpr ⟨hx, hxs⟩))
      have hpre : xs.reverse.takeWhile p = xs.reverse :=
        List.takeWhile_eq_self_iff.mpr fun y hy => hxs y (List.mem_reverse.mp hy)
      simp [hx, hpre]
    · rfl

/-- Pruning children keeps those after the last unreadable mapping, without the lookups. -/
theorem pruneChildren_eq (children : List Layer) :
    pruneChildren children =
      ((children.rtakeWhile fun child => !child.isUnreadable).filter fun child =>
        !child.isLookup).map prune := by
  induction children with
  | nil => rfl
  | cons child rest ih =>
    have hall :
        (child :: rest).all (fun child => !child.isUnreadable) =
          !(child :: rest).any isUnreadable := by
      rw [List.not_any_eq_all_not]
    rw [rtakeWhile_cons, hall, pruneChildren]
    cases hany : (child :: rest).any isUnreadable with
    | true => simpa using ih
    | false =>
      have hrest : rest.rtakeWhile (fun child => !child.isUnreadable) = rest := by
        refine List.rtakeWhile_eq_self_iff.mpr ?_
        intro layer hlayer
        have hreadable := List.any_eq_false.mp hany layer (List.mem_cons_of_mem _ hlayer)
        simpa using hreadable
      rw [hrest] at ih
      cases hlook : child.isLookup <;> simp [hlook, ih]

theorem isUnreadable_eq_false
    {layer : Layer} (h : layer.isEnumerable = true) :
    layer.isUnreadable = false := by
  obtain ⟨-, hnone⟩ := (Bool.and_eq_true _ _).mp h
  cases layer with
  | mapping name entries faults => simpa [isUnreadable] using hnone
  | lookup name entries faults => rfl
  | composite name children fault => rfl

theorem isLookup_eq_false
    {layer : Layer} (h : layer.isEnumerable = true) :
    layer.isLookup = false := by
  simpa using ((Bool.and_eq_true _ _).mp h).1

mutual

/-- A tree that can be enumerated everywhere is pruned of nothing. -/
theorem prune_eq_self :
    ∀ {layer : Layer}, layer.everywhere isEnumerable = true → layer.prune = layer
  | mapping _ _ _, _ => rfl
  | lookup _ _ _, _ => rfl
  | composite name children fault, h => by
    obtain ⟨hself, hchildren⟩ := everywhere_composite_iff.mp h
    cases fault with
    | none => rw [prune, pruneChildren_eq_self hchildren]
    | some fault => simp [isEnumerable, obstacle?] at hself

theorem pruneChildren_eq_self :
    ∀ {layers : List Layer}, everywhereIn isEnumerable layers = true →
      pruneChildren layers = layers
  | [], _ => rfl
  | child :: rest, h => by
    have hall : ∀ layer ∈ child :: rest, layer.isEnumerable = true := fun layer hlayer =>
      everywhere_self (everywhereIn_iff.mp h layer hlayer)
    have hany : (child :: rest).any isUnreadable = false :=
      List.any_eq_false.mpr fun layer hlayer => by
        simp [isUnreadable_eq_false (hall layer hlayer)]
    have hlookup : child.isLookup = false := isLookup_eq_false (hall child List.mem_cons_self)
    rw [everywhereIn, Bool.and_eq_true] at h
    rw [pruneChildren, hany, hlookup]
    simp [prune_eq_self h.1, pruneChildren_eq_self h.2]

end

/-- The layers whose names are not excluded. -/
def outside (excluded : List Text) (layers : List Layer) : List Layer :=
  layers.filter fun layer => !excluded.contains layer.name

theorem mem_outside
    {excluded : List Text} {layers : List Layer} {layer : Layer} :
    layer ∈ outside excluded layers ↔
      layer ∈ layers ∧ excluded.contains layer.name = false := by
  simp [outside]

/-- Layers that can be enumerated everywhere are pruned of the excluded ones only. -/
theorem pruneTops_eq_outside
    {excluded : List Text} {layers : List Layer}
    (h : ∀ layer ∈ outside excluded layers, layer.everywhere isEnumerable = true) :
    pruneTops excluded layers = outside excluded layers := by
  have hkeep : ∀ layer ∈ layers,
      (!(excluded.contains layer.name || layer.isLookup || layer.isUnreadable)) =
        !excluded.contains layer.name := by
    intro layer hlayer
    cases hex : excluded.contains layer.name with
    | true => rfl
    | false =>
      have hself := everywhere_self (h layer (mem_outside.mpr ⟨hlayer, hex⟩))
      rw [isLookup_eq_false hself, isUnreadable_eq_false hself]
      rfl
  unfold pruneTops
  rw [List.filter_congr hkeep]
  exact (List.map_congr_left fun layer hlayer => prune_eq_self (h layer hlayer)).trans
    (List.map_id' _)

end Layer

end LiveConfig
