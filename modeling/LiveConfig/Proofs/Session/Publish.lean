import LiveConfig.Proofs.Session.Act
import LiveConfig.Session.Publish

/-!
# What publishing leaves alone

Listeners look properties up, fetch instances, publish and subscribe.  What they can change of a
session is the publisher, the scope and the journal, and nothing else of it.  Their ordinary failures
are absorbed, except at the end of a chain of deliveries that is too long, and there by the deliveries
further up.

**Results.**
* `Act.keeps_publish`, `Act.keeps_refreshInstances`: the rest of the session stays as it is.
* `Act.failsOnly_publish`: publishing fails by interruptions only.
-/

namespace LiveConfig

/-- A session without what listeners and scopes can change. -/
def Session.bare (s : Session) : Session :=
  { s with publisher := default, scope := default, journal := Journal.empty }

namespace Act

/-! ## All but the publisher, the scope and the journal -/

theorem Keeps.environment {α : Type} {x : Act α} (h : Keeps Session.bare x) :
    Keeps Session.environment x := by
  intro s
  have hbare : (x.runOn s).2.bare.environment = s.bare.environment := by rw [h s]
  exact hbare

section Bare

theorem keeps_modify
    {f : Session → Session} (h : ∀ s, (f s).bare = s.bare) :
    Keeps Session.bare (modify f : Act Unit) :=
  h

theorem keeps_note (n : Note) : Keeps Session.bare (note n) :=
  fun _ => rfl

theorem keeps_record (level : LogLevel) (channel : LogChannel) (text : Text) :
    Keeps Session.bare (record level channel text) :=
  fun _ => rfl

theorem keeps_throw {α : Type} (failure : Failure) :
    Keeps Session.bare (throw failure : Act α) :=
  fun _ => rfl

theorem keeps_get : Keeps Session.bare (get : Act Session) :=
  fun _ => rfl

theorem keeps_ofExcept {α : Type} (x : Except Failure α) :
    Keeps Session.bare (ofExcept x) :=
  fun _ => rfl

theorem keeps_ofScope
    {α : Type} (f : PropertySource → LazyScope → LazyScope.Step α) :
    Keeps Session.bare (ofScope f) := by
  intro s
  obtain ⟨outcome, scope, journal, h⟩ := runOn_ofScope f s
  rw [h]
  rfl

variable {publish : Event → Act Unit} (hpublish : ∀ e, Keeps Session.bare (publish e))
include hpublish

theorem keeps_runListenerAction (action : ListenerAction) :
    Keeps Session.bare (runListenerAction publish action) := by
  cases action with
  | fail failure => exact keeps_throw failure
  | publish event => exact hpublish event
  | subscribe type listener => exact keeps_modify fun _ => rfl
  | unsubscribe type listener => exact keeps_modify fun _ => rfl
  | property key =>
    exact keeps_get.bind fun s => (keeps_ofExcept _).bind fun v => keeps_note _
  | fetch name => exact (keeps_ofScope _).bind fun i => keeps_note _
  | ask name => exact keeps_get.bind fun s => keeps_note _

theorem keeps_callListener (event : Event) (listener : Text) :
    Keeps Session.bare (callListener publish event listener) :=
  (keeps_note _).bind fun _ => keeps_get.bind fun _ =>
    Keeps.forM fun action _ => keeps_runListenerAction hpublish action

end Bare

theorem keeps_absorbListener
    {x : Act Unit} (hx : Keeps Session.bare x) (hasRoom : Bool) (listener : Text)
    (event : Event) :
    Keeps Session.bare (absorbListener hasRoom listener event x) := by
  refine hx.tryCatch fun failure => ?_
  split
  · exact keeps_throw failure
  · split
    · exact keeps_record _ _ _
    · exact keeps_throw _

theorem keeps_publishWithin (n : Nat) (event : Event) :
    Keeps Session.bare (publishWithin n event) := by
  induction n generalizing event with
  | zero => exact keeps_throw _
  | succ n ih =>
    exact keeps_get.bind fun s => Keeps.forM fun listener _ =>
      keeps_absorbListener (keeps_callListener ih event listener) _ listener event

/-- Listeners change the publisher, the scope and the journal only. -/
theorem keeps_publish (event : Event) : Keeps Session.bare (publish event) :=
  keeps_publishWithin publishLimit event

theorem keeps_publishIf (publishes : Bool) (event : Event) :
    Keeps Session.bare (publishIf publishes event) := by
  cases publishes with
  | true => exact keeps_publish event
  | false => exact fun _ => rfl

/-- Discarding instances changes no more. -/
theorem keeps_refreshInstances (publishes : Bool) :
    Keeps Session.bare (refreshInstances publishes) :=
  (keeps_ofScope _).bind fun _ => keeps_publishIf publishes _

/-! ## Failures -/

/-- With room for a record, only interruptions pass. -/
theorem failsOnly_absorbListener (x : Act Unit) (listener : Text) (event : Event) :
    FailsOnly (fun failure => failure.isOrdinary = false)
      (absorbListener true listener event x) := by
  refine FailsOnly.tryCatch fun failure => ?_
  cases hord : failure.isOrdinary with
  | true => exact fun _ _ h => nomatch h
  | false => exact FailsOnly.throw hord

/-- Publishing fails by interruptions only. -/
theorem failsOnly_publish (event : Event) :
    FailsOnly (fun failure => failure.isOrdinary = false) (publish event) := by
  refine FailsOnly.bind (fun _ _ h => nomatch h) fun s => FailsOnly.forM fun listener _ => ?_
  exact failsOnly_absorbListener _ listener event

theorem failsOnly_publishIf (publishes : Bool) (event : Event) :
    FailsOnly (fun failure => failure.isOrdinary = false) (publishIf publishes event) := by
  cases publishes with
  | true => exact failsOnly_publish event
  | false => exact fun _ _ h => nomatch h

end Act

end LiveConfig
