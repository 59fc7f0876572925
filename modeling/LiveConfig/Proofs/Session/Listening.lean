import LiveConfig.Proofs.Session.Publish

/-!
# What a delivery can do to a session

A delivery is made of few things: a listener makes a note, its failure is logged, subscriptions
change, an instance is fetched.  A relation between the session before and the session after that
holds over each of these holds over every delivery, however deep listeners publish.  Listeners may
be confined to some actions; then only these have to be considered.

**Results.**
* `Act.Lasts.publish`, `Act.Lasts.publishIf`: what lasts over each thing that a listener does lasts
  over a delivery.
-/

namespace LiveConfig

/-- Whether a note is one that listeners make. -/
def Note.isOfListener : Note → Bool
  | .event .. | .property .. | .fetched .. | .cached .. => true
  | _ => false

/-- The listeners of a session do nothing but certain actions. -/
def Session.Confines (s : Session) (allowed : ListenerAction → Prop) : Prop :=
  ∀ name actions, s.listeners.get? name = some actions → ∀ a ∈ actions, allowed a

namespace Act

variable {α β : Type} {allowed : ListenerAction → Prop} {R : Session → Session → Prop}

/-- Nothing that leaves the listeners alone makes them do more. -/
theorem Keeps.confines {x : Act α} {s : Session} (h : Keeps Session.bare x)
    (hs : s.Confines allowed) : (x.runOn s).2.Confines allowed := by
  have hlisteners : (x.runOn s).2.listeners = s.listeners := by
    have hbare : (x.runOn s).2.bare.listeners = s.bare.listeners := by rw [h s]
    exact hbare
  unfold Session.Confines at hs ⊢
  rwa [hlisteners]

/-- The session before an act and the session after it are related. -/
def Respects (R : Session → Session → Prop) (x : Act α) : Prop :=
  ∀ s, R s (x.runOn s).2

/-- A relation that goes on from one session to the next. -/
structure Goes (R : Session → Session → Prop) : Prop where
  refl : ∀ s, R s s
  trans : ∀ {s t u}, R s t → R t u → R s u

namespace Respects

variable {x : Act α}

theorem bind {f : α → Act β} (hR : Goes R) (hx : Respects R x) (hf : ∀ a, Respects R (f a)) :
    Respects R (x >>= f) := by
  intro s
  have hs := hx s
  rw [runOn_bind]
  generalize x.runOn s = r at hs ⊢
  obtain ⟨failure | a, t⟩ := r
  · exact hs
  · exact hR.trans hs (hf a t)

theorem tryCatch {handle : Failure → Act α} (hR : Goes R) (hx : Respects R x)
    (hhandle : ∀ failure, Respects R (handle failure)) :
    Respects R (MonadExcept.tryCatch x handle) := by
  intro s
  have hs := hx s
  rw [runOn_tryCatch]
  generalize x.runOn s = r at hs ⊢
  obtain ⟨failure | a, t⟩ := r
  · exact hR.trans hs (hhandle failure t)
  · exact hs

theorem forM {f : β → Act Unit} {xs : List β} (hR : Goes R) (h : ∀ x ∈ xs, Respects R (f x)) :
    Respects R (xs.forM f) := by
  induction xs with
  | nil => exact hR.refl
  | cons x xs ih =>
    exact (h x List.mem_cons_self).bind hR fun _ =>
      ih fun y hy => h y (List.mem_cons_of_mem _ hy)

end Respects

/-- A relation that holds over each thing that listeners do if they do certain actions only. -/
structure Lasts (allowed : ListenerAction → Prop) (R : Session → Session → Prop) : Prop where
  goes : Goes R
  note : ∀ s (n : Note), n.isOfListener = true → R s ((Act.note n).runOn s).2
  record : ∀ s level channel text, R s ((Act.record level channel text).runOn s).2
  publisher : ∀ s p, R s { s with publisher := p }
  fetch : ∀ s name, allowed (.fetch name) →
    R s ((ofScope fun properties => LazyScope.fetch properties name).runOn s).2

namespace Lasts

/-- What holds as long as the listeners are confined, who stay so. -/
def While (allowed : ListenerAction → Prop) (R : Session → Session → Prop) (s t : Session) : Prop :=
  s.Confines allowed → t.Confines allowed ∧ R s t

theorem goes_while (h : Lasts allowed R) : Goes (While allowed R) where
  refl s := fun hs => ⟨hs, h.goes.refl s⟩
  trans hst htu := fun hs => by
    obtain ⟨ht, hfirst⟩ := hst hs
    obtain ⟨hu, hsecond⟩ := htu ht
    exact ⟨hu, h.goes.trans hfirst hsecond⟩

theorem respects_while {x : Act α} (hkeeps : Keeps Session.bare x)
    (hR : ∀ s, s.Confines allowed → R s (x.runOn s).2) : Respects (While allowed R) x :=
  fun s hs => ⟨hkeeps.confines hs, hR s hs⟩

variable (h : Lasts allowed R)
include h

theorem respects_throw (failure : Failure) :
    Respects (While allowed R) (throw failure : Act α) :=
  respects_while (keeps_throw failure) fun s _ => h.goes.refl s

theorem respects_get : Respects (While allowed R) (get : Act Session) :=
  respects_while keeps_get fun s _ => h.goes.refl s

theorem respects_note {n : Note} (hn : n.isOfListener = true) :
    Respects (While allowed R) (Act.note n) :=
  respects_while (keeps_note n) fun s _ => h.note s n hn

section Listener

variable {publish : Event → Act Unit} (hpublish : ∀ e, Respects (While allowed R) (publish e))
include hpublish

theorem respects_runListenerAction {action : ListenerAction} (hallowed : allowed action) :
    Respects (While allowed R) (runListenerAction publish action) := by
  cases action with
  | fail failure => exact h.respects_throw failure
  | publish event => exact hpublish event
  | subscribe type listener =>
    exact respects_while (keeps_modify fun _ => rfl) fun s _ => h.publisher s _
  | unsubscribe type listener =>
    exact respects_while (keeps_modify fun _ => rfl) fun s _ => h.publisher s _
  | property key =>
    have hread (s : Session) :
        Respects (While allowed R) (ofExcept (propertiesOf s.environment key)) :=
      respects_while (keeps_ofExcept _) fun t _ => h.goes.refl t
    exact h.respects_get.bind h.goes_while fun s => (hread s).bind h.goes_while fun _ =>
      h.respects_note rfl
  | fetch name =>
    have hfetch : Respects (While allowed R)
        (ofScope fun properties => LazyScope.fetch properties name) :=
      respects_while (keeps_ofScope _) fun s _ => h.fetch s name hallowed
    exact hfetch.bind h.goes_while fun _ => h.respects_note rfl
  | ask name =>
    exact h.respects_get.bind h.goes_while fun _ => h.respects_note rfl

/-- A listener does its actions one after another, all of which are allowed. -/
theorem respects_callListener (event : Event) (listener : Text) :
    Respects (While allowed R) (callListener publish event listener) := by
  refine (h.respects_note rfl).bind h.goes_while fun _ s hs => ?_
  rw [runOn_bind, runOn_get]
  refine Respects.forM h.goes_while (fun action haction => ?_) s hs
  cases hget : s.listeners.get? listener with
  | none =>
    rw [hget] at haction
    cases haction
  | some actions =>
    rw [hget] at haction
    exact h.respects_runListenerAction hpublish (hs listener actions hget action haction)

end Listener

theorem respects_absorbListener
    {x : Act Unit} (hx : Respects (While allowed R) x) (hasRoom : Bool) (listener : Text)
    (event : Event) :
    Respects (While allowed R) (absorbListener hasRoom listener event x) := by
  refine hx.tryCatch h.goes_while fun failure => ?_
  split
  · exact h.respects_throw failure
  · split
    · exact respects_while (keeps_record _ _ _) fun s _ => h.record s _ _ _
    · exact h.respects_throw _

theorem respects_publishWithin (n : Nat) (event : Event) :
    Respects (While allowed R) (publishWithin n event) := by
  induction n generalizing event with
  | zero => exact h.respects_throw _
  | succ n ih =>
    exact h.respects_get.bind h.goes_while fun s => Respects.forM h.goes_while fun listener _ =>
      h.respects_absorbListener (h.respects_callListener ih event listener) _ listener event

/-- What lasts over each thing that a listener does lasts over a delivery. -/
theorem publish {s : Session} (hs : s.Confines allowed) (event : Event) :
    R s ((Act.publish event).runOn s).2 :=
  (h.respects_publishWithin publishLimit event s hs).2

theorem publishIf {s : Session} (hs : s.Confines allowed) (publishes : Bool) (event : Event) :
    R s ((Act.publishIf publishes event).runOn s).2 := by
  cases publishes with
  | true => exact h.publish hs event
  | false => exact h.goes.refl s

end Lasts

end Act

end LiveConfig
