import LiveConfig.Proofs.Table
import LiveConfig.Scope.Basic

/-!
# Scopes whose factories and destroy callbacks keep to themselves

A factory or a destroy callback that fetches from its own scope can change anything in it.  Those
that do not are quiet: a fetch then builds the one instance that was asked for or none, and whatever
a destroy callback runs into is logged.  There is one equation for each operation of a scope, with
what it notes.

**Results.**
* `LazyScope.fetch_of_registered`: a fetch calls the current factory once.
* `LazyScope.exists_discard`, `LazyScope.exists_clear`: discarding calls each destroy callback once.
-/

namespace LiveConfig

/-- Whether a factory does without the scope in a call. -/
def Recipe.isQuiet : Recipe → Bool
  | component _ => false
  | _ => true

/-- Whether an action leaves the scope alone and fails ordinarily at most. -/
def DestroyAction.isQuiet : DestroyAction → Bool
  | fail failure => failure.isOrdinary
  | _ => false

namespace Registration

/-- Neither the factory nor the destroy callback of a component calls back into the scope. -/
structure IsQuiet (r : Registration) : Prop where
  factory : ∀ n, (r.factory n).isQuiet = true
  destroy : ∀ actions, r.destroy = some actions → ∀ a ∈ actions, a.isQuiet = true

/-- A registration without the count of its calls. -/
def uncalled (r : Registration) : Registration :=
  { r with calls := 0 }

end Registration

namespace LazyScope

variable {s : LazyScope} {name : Text} {r : Registration} {i : Instance}

/-- All components of a scope are quiet. -/
def IsQuiet (s : LazyScope) : Prop :=
  ∀ name r, s.registrations.get? name = some r → r.IsQuiet

/-- The components of a scope, without the counts of their calls. -/
def components (s : LazyScope) : Table Text Registration :=
  s.registrations.mapValues Registration.uncalled

/-- A scope without its journal. -/
def silent (s : LazyScope) : LazyScope :=
  { s with journal := Journal.empty }

/-- The instance of a name, if there is one. -/
def instanceOf (s : LazyScope) (name : Text) : List (Text × Instance) :=
  (s.instances.get? name).toList.map fun i => (name, i)

/-- What is noted of a discarded instance: the call of the destroy callback, if there is one. -/
def destroyNotes (s : LazyScope) (e : Text × Instance) : List Note :=
  match (s.registrations.get? e.1).bind Registration.destroy with
  | none => []
  | some _ => [.destroy e.1 e.2.value]

/-! ## Fetching -/

theorem fetch_of_cached (properties : PropertySource) (h : s.instances.get? name = some i) :
    fetch properties name s = (.ok i, s) := by
  unfold fetch fetchLimit fetchWithin
  rw [h]

theorem fetch_of_unknown
    (properties : PropertySource) (h : s.instances.get? name = none)
    (hr : s.registrations.get? name = none) :
    fetch properties name s = (.error (.missingKey (.str name)), s) := by
  unfold fetch fetchLimit fetchWithin
  rw [h, hr]

/-- A fetch of an instance that is not there calls the factory. -/
theorem fetch_of_registered
    (properties : PropertySource) (h : s.instances.get? name = none)
    (hr : s.registrations.get? name = some r) (hquiet : r.IsQuiet) :
    ∃ outcome, fetch properties name s = finishFetch name r (outcome, s.countCall name r) := by
  have hrecipe := hquiet.factory (r.calls + 1)
  unfold fetch fetchLimit fetchWithin
  cases hcall : r.factory (r.calls + 1) with
  | value v =>
    simp only [h, hr, hcall]
    exact ⟨.ok v, rfl⟩
  | property key =>
    simp only [h, hr, hcall]
    exact ⟨properties key, rfl⟩
  | component other =>
    rw [hcall] at hrecipe
    cases hrecipe
  | fail failure =>
    simp only [h, hr, hcall]
    exact ⟨.error failure, rfl⟩

/-- The count of a call does not change the components. -/
theorem components_countCall (hr : s.registrations.get? name = some r) :
    (s.countCall name r).components = s.components :=
  Table.ext_entries (map_assign_of_eq Registration.uncalled hr rfl)

/-! ## Discarding -/

/-- Quiet destroy actions fail ordinarily at most and leave the scope alone. -/
theorem absorb_runDestroy
    (properties : PropertySource) {actions : List DestroyAction}
    (h : ∀ a ∈ actions, a.isQuiet = true) (name : Text) (s : LazyScope) :
    ∃ log, absorbDestroy name (runDestroy properties actions s) =
      (.ok (), { s with journal := ⟨s.journal.notes, log⟩ }) := by
  cases actions with
  | nil => exact ⟨s.journal.log, rfl⟩
  | cons a rest =>
    have ha := h a List.mem_cons_self
    cases a with
    | fail failure =>
      have hordinary : failure.isOrdinary = true := ha
      unfold runDestroy absorbDestroy
      simp only [hordinary, if_true]
      exact ⟨_, rfl⟩
    | fetch other => cases ha
    | ask other => cases ha

/-- Discarding takes the instance of a name away and calls its destroy callback once. -/
theorem exists_discard (properties : PropertySource) (hquiet : s.IsQuiet) (name : Text) :
    ∃ log, discard properties name s =
      (.ok (s.isActive name), { s.drop name with
        journal := ⟨s.journal.notes ++ (s.instanceOf name).flatMap s.destroyNotes, log⟩ }) := by
  unfold discard instanceOf isActive Table.contains
  cases hi : s.instances.get? name with
  | none =>
    have hdrop : s.drop name = s := by
      unfold drop
      rw [Table.erase_of_get? hi]
    refine ⟨s.journal.log, ?_⟩
    simp only [hdrop, Option.toList_none, List.map_nil, List.flatMap_nil, List.append_nil]
    rfl
  | some i =>
    have hnotes : (([i].map fun i => (name, i)).flatMap s.destroyNotes) =
        s.destroyNotes (name, i) := List.append_nil _
    simp only [Option.toList_some, hnotes, destroyNotes, drop]
    cases hr : s.registrations.get? name with
    | none =>
      refine ⟨s.journal.log, ?_⟩
      simp
    | some r =>
      cases hdestroy : r.destroy with
      | none =>
        refine ⟨s.journal.log, ?_⟩
        simp [hdestroy]
      | some actions =>
        obtain ⟨log, hrun⟩ := absorb_runDestroy properties
          ((hquiet name r hr).destroy actions hdestroy) name
          (({ s with instances := s.instances.erase name }).note (.destroy name i.value))
        refine ⟨log, ?_⟩
        simp only [Option.bind_some, hdestroy, hrun]
        rfl

/-- Discarding one instance after another discards them all. -/
theorem exists_discardAll
    (properties : PropertySource) {es : List (Text × Instance)} (hes : s.instances.entries = es)
    (hquiet : s.IsQuiet) :
    ∃ log, discardAll properties (es.map Prod.fst) s =
      (.ok (), { s with
        instances := Table.empty
        journal := ⟨s.journal.notes ++ es.flatMap s.destroyNotes, log⟩ }) := by
  induction es generalizing s with
  | nil =>
    have hempty : s.instances = Table.empty := Table.ext_entries hes
    refine ⟨s.journal.log, ?_⟩
    rw [List.flatMap_nil, List.append_nil, ← hempty]
    rfl
  | cons e es ih =>
    obtain ⟨name, i⟩ := e
    have hself : (name == name) = true := beq_self_eq_true name
    have hi : s.instances.get? name = some i := by
      rw [Table.get?, hes, firstValue?, hself, if_pos rfl]
    have hdropped : (s.instances.erase name).entries = es := by
      show dropKey name s.instances.entries = es
      rw [hes, dropKey, hself, if_pos rfl]
    obtain ⟨log, hdiscard⟩ := exists_discard properties hquiet name
    obtain ⟨log', hrest⟩ := ih (s := { s.drop name with
      journal := ⟨s.journal.notes ++ (s.instanceOf name).flatMap s.destroyNotes, log⟩ })
      hdropped hquiet
    have hfirst : (s.instanceOf name).flatMap s.destroyNotes = s.destroyNotes (name, i) := by
      rw [instanceOf, hi]
      exact List.append_nil _
    refine ⟨log', ?_⟩
    rw [List.map_cons, discardAll, hdiscard]
    simp only [hrest]
    rw [List.flatMap_cons, hfirst, List.append_assoc]
    rfl

/-- A scope that is cleared has called the destroy callback of each of its instances once. -/
theorem exists_clear (properties : PropertySource) (hquiet : s.IsQuiet) :
    ∃ log, clear properties s =
      (.ok (), { s with
        instances := Table.empty
        journal := ⟨s.journal.notes ++ s.instances.entries.flatMap s.destroyNotes, log⟩ }) :=
  exists_discardAll properties rfl hquiet

/-- Registering discards the instance of the name and takes the place of the old component. -/
theorem exists_register
    (properties : PropertySource) (hquiet : s.IsQuiet) (name : Text) (factory : Nat → Recipe)
    (destroy : Option (List DestroyAction)) :
    ∃ log, register properties name factory destroy s =
      (.ok (), { s.drop name with
        registrations := s.registrations.insert name ⟨s.registered + 1, factory, destroy, 0⟩
        registered := s.registered + 1
        journal := ⟨s.journal.notes ++ (s.instanceOf name).flatMap s.destroyNotes, log⟩ }) := by
  obtain ⟨log, hdiscard⟩ := exists_discard properties hquiet name
  refine ⟨log, ?_⟩
  rw [register, hdiscard]
  rfl

end LazyScope

end LiveConfig
