import LiveConfig.Proofs.Session.Listening

/-!
# Two sessions side by side

Two sessions can differ in what nobody comes to see.  Acts run alike from related sessions if they
come to the same outcome and to related sessions again (`Act.RunAlike`); the two acts may be
different ones.  If each single thing that a listener does runs alike, so does every delivery,
however deep listeners publish.

**Results.**
* `Act.Lockstep.publish`, `Act.Lockstep.publishIf`: deliveries from related sessions come to the
  same outcome and to related sessions.
-/

namespace LiveConfig

namespace Act

variable {α β : Type} {allowed : ListenerAction → Prop} {R : Session → Session → Prop}

/-- From related sessions two acts come to the same outcome and to related sessions. -/
def RunAlike (R : Session → Session → Prop) (x y : Act α) : Prop :=
  ∀ s t, R s t → (x.runOn s).1 = (y.runOn t).1 ∧ R (x.runOn s).2 (y.runOn t).2

namespace RunAlike

variable {x y : Act α}

theorem bind {f g : α → Act β} (hxy : RunAlike R x y) (hfg : ∀ a, RunAlike R (f a) (g a)) :
    RunAlike R (x >>= f) (y >>= g) := by
  intro s t hst
  obtain ⟨houtcome, hafter⟩ := hxy s t hst
  rw [runOn_bind, runOn_bind]
  generalize x.runOn s = first at houtcome hafter ⊢
  generalize y.runOn t = second at houtcome hafter ⊢
  obtain ⟨outcome, s'⟩ := first
  obtain ⟨outcome', t'⟩ := second
  obtain rfl : outcome = outcome' := houtcome
  cases outcome with
  | error failure => exact ⟨rfl, hafter⟩
  | ok a => exact hfg a s' t' hafter

theorem tryCatch {handle handle' : Failure → Act α} (hxy : RunAlike R x y)
    (hhandle : ∀ failure, RunAlike R (handle failure) (handle' failure)) :
    RunAlike R (MonadExcept.tryCatch x handle) (MonadExcept.tryCatch y handle') := by
  intro s t hst
  obtain ⟨houtcome, hafter⟩ := hxy s t hst
  rw [runOn_tryCatch, runOn_tryCatch]
  generalize x.runOn s = first at houtcome hafter ⊢
  generalize y.runOn t = second at houtcome hafter ⊢
  obtain ⟨outcome, s'⟩ := first
  obtain ⟨outcome', t'⟩ := second
  obtain rfl : outcome = outcome' := houtcome
  cases outcome with
  | error failure => exact hhandle failure s' t' hafter
  | ok a => exact ⟨rfl, hafter⟩

theorem pure (a : α) : RunAlike R (Pure.pure a : Act α) (Pure.pure a) :=
  fun _ _ hst => ⟨rfl, hst⟩

theorem throw (failure : Failure) :
    RunAlike R (MonadExcept.throw failure : Act α) (MonadExcept.throw failure) :=
  fun _ _ hst => ⟨rfl, hst⟩

theorem ofExcept (outcome : Except Failure α) :
    RunAlike R (Act.ofExcept outcome) (Act.ofExcept outcome) :=
  fun _ _ hst => ⟨rfl, hst⟩

theorem forM {f : β → Act Unit} {xs : List β} (h : ∀ x ∈ xs, RunAlike R (f x) (f x)) :
    RunAlike R (xs.forM f) (xs.forM f) := by
  induction xs with
  | nil => exact .pure ()
  | cons x xs ih =>
    exact (h x List.mem_cons_self).bind fun _ => ih fun y hy => h y (List.mem_cons_of_mem _ hy)

/-- What is read from the session may differ, as long as what is made of it runs alike. -/
theorem get_bind {f g : Session → Act α} (h : ∀ s t, R s t → RunAlike R (f s) (g t)) :
    RunAlike R (get >>= f) (get >>= g) := by
  intro s t hst
  rw [runOn_bind, runOn_bind, runOn_get, runOn_get]
  exact h s t hst s t hst

end RunAlike

/--
Related sessions look the same to listeners that do certain actions only, and each single thing that
these do runs alike.
-/
structure Lockstep (allowed : ListenerAction → Prop) (R : Session → Session → Prop) : Prop where
  publisher_eq : ∀ {s t}, R s t → s.publisher = t.publisher
  listeners_eq : ∀ {s t}, R s t → s.listeners = t.listeners
  isActive_eq : ∀ {s t}, R s t → ∀ name, s.scope.isActive name = t.scope.isActive name
  confines : ∀ {s t}, R s t → s.Confines allowed
  property_eq : ∀ {s t key}, R s t → allowed (.property key) →
    propertiesOf s.environment key = propertiesOf t.environment key
  subscribed : ∀ {s t}, R s t → ∀ p, R { s with publisher := p } { t with publisher := p }
  note : ∀ n, RunAlike R (Act.note n) (Act.note n)
  record : ∀ level channel text,
    RunAlike R (Act.record level channel text) (Act.record level channel text)
  fetch : ∀ name,
    RunAlike R (ofScope fun properties => LazyScope.fetch properties name)
      (ofScope fun properties => LazyScope.fetch properties name)

namespace Lockstep

variable (h : Lockstep allowed R)
include h

theorem modify_publisher (f : Publisher → Publisher) :
    RunAlike R (modify fun s => { s with publisher := f s.publisher } : Act Unit)
      (modify fun s => { s with publisher := f s.publisher }) := by
  intro s t hst
  refine ⟨rfl, ?_⟩
  rw [runOn_modify, runOn_modify, h.publisher_eq hst]
  exact h.subscribed hst (f t.publisher)

section Listener

variable {publish : Event → Act Unit} (hpublish : ∀ e, RunAlike R (publish e) (publish e))
include hpublish

theorem runListenerAction {action : ListenerAction} (hallowed : allowed action) :
    RunAlike R (runListenerAction publish action) (runListenerAction publish action) := by
  cases action with
  | fail failure => exact .throw failure
  | publish event => exact hpublish event
  | subscribe type listener => exact h.modify_publisher fun p => p.subscribe ⟨type, listener⟩
  | unsubscribe type listener => exact h.modify_publisher fun p => p.unsubscribe ⟨type, listener⟩
  | property key =>
    refine .get_bind fun s t hst => ?_
    rw [h.property_eq hst hallowed]
    exact (RunAlike.ofExcept _).bind fun v => h.note _
  | fetch name => exact (h.fetch name).bind fun i => h.note _
  | ask name =>
    refine .get_bind fun s t hst => ?_
    rw [h.isActive_eq hst]
    exact h.note _

theorem callListener (event : Event) (listener : Text) :
    RunAlike R (callListener publish event listener) (callListener publish event listener) := by
  refine (h.note _).bind fun _ => .get_bind fun s t hst => ?_
  rw [← h.listeners_eq hst]
  refine .forM fun action haction => ?_
  cases hget : s.listeners.get? listener with
  | none =>
    rw [hget] at haction
    cases haction
  | some actions =>
    rw [hget] at haction
    exact h.runListenerAction hpublish (h.confines hst listener actions hget action haction)

end Listener

theorem absorbListener
    {x : Act Unit} (hx : RunAlike R x x) (hasRoom : Bool) (listener : Text) (event : Event) :
    RunAlike R (absorbListener hasRoom listener event x)
      (absorbListener hasRoom listener event x) := by
  refine hx.tryCatch fun failure => ?_
  split
  · exact .throw failure
  · split
    · exact h.record _ _ _
    · exact .throw _

theorem publishWithin (n : Nat) (event : Event) :
    RunAlike R (publishWithin n event) (publishWithin n event) := by
  induction n generalizing event with
  | zero => exact .throw _
  | succ n ih =>
    refine .get_bind fun s t hst => ?_
    rw [h.publisher_eq hst]
    exact .forM fun listener _ =>
      h.absorbListener (h.callListener ih event listener) _ listener event

/-- Deliveries come to the same outcome and to related sessions. -/
theorem publish (event : Event) : RunAlike R (publish event) (publish event) :=
  h.publishWithin publishLimit event

theorem publishIf (publishes : Bool) (event : Event) :
    RunAlike R (publishIf publishes event) (publishIf publishes event) := by
  cases publishes with
  | true => exact h.publish event
  | false => exact .pure ()

end Lockstep

end Act

end LiveConfig
