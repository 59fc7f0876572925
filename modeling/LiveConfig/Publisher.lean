import LiveConfig.Event

/-!
# Subscriptions

Listeners are known by name and subscribe to a kind of event.  An event goes to all
subscriptions of its kinds, in the order of subscribing; a listener that subscribed twice
receives it twice.
-/

namespace LiveConfig

/-- A listener registered for a kind of event. -/
structure Subscription where
  type : EventType
  listener : Text
  deriving DecidableEq

/-- The subscriptions in order. -/
structure Publisher where
  subscriptions : List Subscription

namespace Publisher

instance : Inhabited Publisher := ⟨⟨[]⟩⟩

def empty : Publisher :=
  ⟨[]⟩

def subscribe (p : Publisher) (s : Subscription) : Publisher :=
  ⟨p.subscriptions ++ [s]⟩

def isSubscribed (p : Publisher) (s : Subscription) : Bool :=
  p.subscriptions.contains s

/-- Takes the first registration of a listener for a kind of event away. -/
def unsubscribe (p : Publisher) (s : Subscription) : Publisher :=
  ⟨p.subscriptions.erase s⟩

/-- The listeners that receive an event, in order. -/
def receivers (p : Publisher) (e : Event) : List Text :=
  (p.subscriptions.filter fun s => e.isA s.type).map Subscription.listener

end Publisher

end LiveConfig
