import LiveConfig.Proofs.Scope.Lookups
import LiveConfig.Proofs.Session.Listening

/-!
# Sessions in which nothing is interrupted

Listeners fail by themselves, by looking a property up, and by fetching an instance whose factory
fails.  They are tame if none of these failures can be an interruption.  What is tame depends on the
properties that are found, and no listener changes these; so a tame session stays tame over every
delivery, and no listener does worse than fail ordinarily (`Act.StaysTame`).

**Results.**
* `Act.staysTame_callListener`, `Act.staysTame_publish`: a call of a listener and a delivery in a
  tame session.
-/

namespace LiveConfig

/-- An outcome that is no interruption. -/
abbrev IsUninterrupted {α : Type} (outcome : Except Failure α) : Prop :=
  FailsWith (fun failure => failure.isOrdinary = true) outcome

/-- An action that leads to no interruption where properties are looked up in a certain way. -/
def ListenerAction.IsTame (properties : PropertySource) : ListenerAction → Prop
  | .fail failure => failure.isOrdinary = true
  | .property key => IsUninterrupted (properties key)
  | _ => True

/-- A call of a factory that leads to no interruption. -/
def Recipe.IsTame (properties : PropertySource) : Recipe → Prop
  | .fail failure => failure.isOrdinary = true
  | .property key => IsUninterrupted (properties key)
  | _ => True

namespace LazyScope

/-- No call of a factory leads to an interruption. -/
def IsTame (properties : PropertySource) (s : LazyScope) : Prop :=
  ∀ name r n, s.registrations.get? name = some r → (r.factory n).IsTame properties

variable {properties : PropertySource} {s : LazyScope}

theorem IsTame.countCall
    {name : Text} {r : Registration} (hs : s.IsTame properties)
    (hr : s.registrations.get? name = some r) : (s.countCall name r).IsTame properties := by
  intro other r' n hr'
  obtain ⟨q, hq, hfactory⟩ := exists_factory_eq hr hr'
  exact hfactory ▸ hs other q n hq

/-- A fetch from a tame scope is not interrupted and leaves the scope tame. -/
theorem tame_fetchWithin (n : Nat) (name : Text) (hs : s.IsTame properties) :
    (fetchWithin properties n name s).2.IsTame properties ∧
      IsUninterrupted (fetchWithin properties n name s).1 := by
  induction n generalizing name s with
  | zero => exact ⟨hs, .error rfl⟩
  | succ n ih =>
    unfold fetchWithin
    cases s.instances.get? name with
    | some i => exact ⟨hs, .ok i⟩
    | none =>
      cases hr : s.registrations.get? name with
      | none => exact ⟨hs, .error rfl⟩
      | some r =>
        have hcounted := hs.countCall hr
        have hrecipe := hs name r (r.calls + 1) hr
        -- keeping what was built changes no registration
        have hfinish (x : Step Value) (htame : x.2.IsTame properties)
            (hordinary : IsUninterrupted x.1) :
            (finishFetch name r x).2.IsTame properties ∧
              IsUninterrupted (finishFetch name r x).1 := by
          obtain ⟨failure | v, t⟩ := x
          · exact ⟨htame, .error (hordinary failure rfl)⟩
          · exact ⟨htame, .ok _⟩
        dsimp only
        cases hcall : r.factory (r.calls + 1) with
        | value v => exact hfinish (.ok v, _) hcounted (.ok v)
        | property key =>
          rw [hcall] at hrecipe
          exact hfinish (properties key, _) hcounted hrecipe
        | component other =>
          obtain ⟨htame, hordinary⟩ := ih other hcounted
          exact hfinish (valueOf (fetchWithin properties n other _)) htame hordinary.map
        | fail failure =>
          rw [hcall] at hrecipe
          exact hfinish (.error failure, _) hcounted (.error hrecipe)

end LazyScope

namespace Session

/-- Nothing that listeners can do leads to an interruption. -/
structure TameUnder (properties : PropertySource) (s : Session) : Prop where
  properties_eq : Act.propertiesOf s.environment = properties
  listeners : s.Confines (ListenerAction.IsTame properties)
  factories : s.scope.IsTame properties

/-- Nothing that listeners can do leads to an interruption with the properties that are found. -/
def Tame (s : Session) : Prop :=
  s.TameUnder (Act.propertiesOf s.environment)

end Session

namespace Act

variable {α β : Type} {properties : PropertySource}

/-- A tame session stays tame, and nothing worse comes of the act than an ordinary failure. -/
def StaysTame (properties : PropertySource) (x : Act α) : Prop :=
  ∀ s : Session, s.TameUnder properties →
    (x.runOn s).2.TameUnder properties ∧ IsUninterrupted (x.runOn s).1

namespace StaysTame

variable {x : Act α}

theorem bind {f : α → Act β} (hx : StaysTame properties x) (hf : ∀ a, StaysTame properties (f a)) :
    StaysTame properties (x >>= f) := by
  intro s hs
  have hrun := hx s hs
  rw [runOn_bind]
  generalize x.runOn s = r at hrun ⊢
  obtain ⟨failure | a, t⟩ := r
  · exact ⟨hrun.1, .error (hrun.2 failure rfl)⟩
  · exact hf a t hrun.1

/-- What is read is a tame session. -/
theorem get_bind {f : Session → Act α}
    (hf : ∀ s : Session, s.TameUnder properties → StaysTame properties (f s)) :
    StaysTame properties (get >>= f) := by
  intro s hs
  rw [runOn_bind, runOn_get]
  exact hf s hs s hs

theorem tryCatch {handle : Failure → Act α} (hx : StaysTame properties x)
    (hhandle : ∀ failure, failure.isOrdinary = true → StaysTame properties (handle failure)) :
    StaysTame properties (MonadExcept.tryCatch x handle) := by
  intro s hs
  have hrun := hx s hs
  rw [runOn_tryCatch]
  generalize x.runOn s = r at hrun ⊢
  obtain ⟨failure | a, t⟩ := r
  · exact hhandle failure (hrun.2 failure rfl) t hrun.1
  · exact hrun

theorem forM {f : β → Act Unit} {xs : List β} (h : ∀ x ∈ xs, StaysTame properties (f x)) :
    StaysTame properties (xs.forM f) := by
  induction xs with
  | nil => exact fun s hs => ⟨hs, .ok ()⟩
  | cons x xs ih =>
    exact (h x List.mem_cons_self).bind fun _ => ih fun y hy => h y (List.mem_cons_of_mem _ hy)

theorem throw {failure : Failure} (h : failure.isOrdinary = true) :
    StaysTame properties (MonadExcept.throw failure : Act α) :=
  fun _ hs => ⟨hs, .error h⟩

theorem ofExcept {outcome : Except Failure α} (h : IsUninterrupted outcome) :
    StaysTame properties (Act.ofExcept outcome) :=
  fun _ hs => ⟨hs, h⟩

/-- A change of the publisher or of the journal. -/
theorem modify {f : Session → Session}
    (h : ∀ s : Session, ∃ publisher journal,
      f s = { s with publisher := publisher, journal := journal }) :
    StaysTame properties (MonadState.modifyGet fun s => ((), f s) : Act Unit) := by
  intro s hs
  obtain ⟨publisher, journal, heq⟩ := h s
  refine ⟨?_, .ok ()⟩
  show (f s).TameUnder properties
  rw [heq]
  exact ⟨hs.properties_eq, hs.listeners, hs.factories⟩

theorem note (n : Note) : StaysTame properties (Act.note n) :=
  modify fun s => ⟨s.publisher, s.journal.note n, rfl⟩

end StaysTame

theorem staysTame_fetch (name : Text) :
    StaysTame properties (ofScope fun properties => LazyScope.fetch properties name) := by
  intro s hs
  have hscope : ({ s.scope with journal := Journal.empty } : LazyScope).IsTame properties :=
    hs.factories
  obtain ⟨htame, hordinary⟩ := LazyScope.tame_fetchWithin LazyScope.fetchLimit name hscope
  rw [← hs.properties_eq] at htame hordinary
  refine ⟨⟨hs.properties_eq, hs.listeners, ?_⟩, hordinary⟩
  exact hs.properties_eq ▸ htame

section Listener

variable {publish : Event → Act Unit} (hpublish : ∀ e, StaysTame properties (publish e))
include hpublish

theorem staysTame_runListenerAction {action : ListenerAction} (h : action.IsTame properties) :
    StaysTame properties (runListenerAction publish action) := by
  cases action with
  | fail failure => exact .throw h
  | publish event => exact hpublish event
  | subscribe type listener => exact .modify fun s => ⟨s.publisher.subscribe _, s.journal, rfl⟩
  | unsubscribe type listener =>
    exact .modify fun s => ⟨s.publisher.unsubscribe _, s.journal, rfl⟩
  | property key =>
    refine .get_bind fun s hs => ?_
    rw [hs.properties_eq]
    exact (StaysTame.ofExcept h).bind fun v => .note _
  | fetch name => exact (staysTame_fetch name).bind fun i => .note _
  | ask name => exact .get_bind fun s _ => .note _

/-- A call of a listener is not interrupted. -/
theorem staysTame_callListener (event : Event) (listener : Text) :
    StaysTame properties (callListener publish event listener) := by
  refine (StaysTame.note _).bind fun _ => .get_bind fun s hs => .forM fun action haction => ?_
  cases hget : s.listeners.get? listener with
  | none =>
    rw [hget] at haction
    cases haction
  | some actions =>
    rw [hget] at haction
    exact staysTame_runListenerAction hpublish (hs.listeners listener actions hget action haction)

end Listener

theorem staysTame_absorbListener
    {x : Act Unit} (hx : StaysTame properties x) (hasRoom : Bool) (listener : Text)
    (event : Event) :
    StaysTame properties (absorbListener hasRoom listener event x) := by
  refine hx.tryCatch fun failure hordinary => ?_
  rw [hordinary]
  cases hasRoom with
  | true => exact .modify fun s => ⟨s.publisher, _, rfl⟩
  | false => exact .throw rfl

theorem staysTame_publishWithin (n : Nat) (event : Event) :
    StaysTame properties (publishWithin n event) := by
  induction n generalizing event with
  | zero => exact .throw rfl
  | succ n ih =>
    exact .get_bind fun s _ => .forM fun listener _ =>
      staysTame_absorbListener (staysTame_callListener ih event listener) _ listener event

/-- A delivery in a tame session leaves it tame. -/
theorem staysTame_publish (event : Event) : StaysTame properties (publish event) :=
  staysTame_publishWithin publishLimit event

end Act

end LiveConfig
