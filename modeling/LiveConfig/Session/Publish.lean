import LiveConfig.Session.Basic

/-!
# Publishing

An event is delivered to those who are subscribed when it is published, one after another.  An
ordinary failure of a listener is logged and the next listener is called.  Listeners may publish
further events, which are delivered at once.  A chain of deliveries that is too long fails, and
at its end there is no room for logging either, so that the failure passes some of them first.
-/

namespace LiveConfig

namespace Act

/-- A listener as shown in messages. -/
def shownListener (name : Text) : Text :=
  "<listener " ++ name ++ ">"

/-- The record of a listener that failed. -/
def listenerFailureText (listener : Text) (event : Event) (failure : Failure) : Text :=
  "Listener " ++ shownListener listener ++ " failed handling " ++ event.type.name ++ ": " ++
    failure.message

/--
Goes on after an ordinary failure of a listener if there is room for its record; otherwise the
record is too deep itself.
-/
def absorbListener (hasRoom : Bool) (listener : Text) (event : Event) (x : Act Unit) : Act Unit :=
  tryCatch x fun failure =>
    if !failure.isOrdinary then throw failure
    else if hasRoom then record .warning .events (listenerFailureText listener event failure)
    else throw .tooDeep

/-- One action of a listener, given a way to publish. -/
def runListenerAction (publish : Event → Act Unit) : ListenerAction → Act Unit
  | .fail failure => throw failure
  | .publish event => publish event
  | .subscribe type listener =>
    modify fun s => { s with publisher := s.publisher.subscribe ⟨type, listener⟩ }
  | .unsubscribe type listener =>
    modify fun s => { s with publisher := s.publisher.unsubscribe ⟨type, listener⟩ }
  | .property key => do
    let v ← ofExcept (propertiesOf (← get).environment key)
    note (.property key v)
  | .fetch name => do
    let i ← ofScope fun properties => LazyScope.fetch properties name
    note (.fetched name i.value)
  | .ask name => do
    note (.cached name ((← get).scope.isActive name))

/-- Calls a listener. -/
def callListener (publish : Event → Act Unit) (event : Event) (listener : Text) : Act Unit := do
  note (.event listener event)
  (((← get).listeners.get? listener).getD []).forM (runListenerAction publish)

/-- The number of deliveries at the end of a chain in which nothing can be logged any more. -/
def recordReserve : Nat := 3

/-- Delivers an event within a chain of at most `n` deliveries. -/
def publishWithin : Nat → Event → Act Unit
  | 0, _ => throw .tooDeep
  | n + 1, event => do
    ((← get).publisher.receivers event).forM fun listener =>
      absorbListener (decide (recordReserve ≤ n)) listener event
        (callListener (publishWithin n) event listener)

/-- The length of the longest chain of deliveries. -/
def publishLimit : Nat := 331

/-- Delivers an event to its listeners. -/
def publish (event : Event) : Act Unit :=
  publishWithin publishLimit event

/-! ## Refreshing a scope -/

/-- Publishes an event if there is a publisher. -/
def publishIf (publishes : Bool) (event : Event) : Act Unit :=
  if publishes then publish event else pure ()

/-- Discards the instance of a name, tells whether there was one, and publishes that it is gone. -/
def refreshInstance (publishes : Bool) (name : Text) : Act Bool := do
  let discarded ← ofScope fun properties => LazyScope.discard properties name
  if discarded then publishIf publishes (.scopeRefreshed (some name))
  return discarded

/-- Discards all instances and publishes that they are gone. -/
def refreshInstances (publishes : Bool) : Act Unit := do
  ofScope LazyScope.clear
  publishIf publishes (.scopeRefreshed none)

end Act

end LiveConfig
