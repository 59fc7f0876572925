import LiveConfig.Bootstrap.Script
import LiveConfig.Value.Order

/-!
# Steps of a session

What can be asked of a session as data, so that a script can hold it, with one function that
carries a step out and answers it.
-/

namespace LiveConfig

/-- A step of a session. -/
inductive SessionStep
  | call (call : StackCall)
  | get (key default : Value)
  | contains (key : Value)
  | profiles
  | setProfiles (active defaults : List Text)
  | shown
  | snapshot
  | standardLayers
  | subscribe (s : Subscription)
  | unsubscribe (s : Subscription)
  | publish (event : Event)
  | register (name : Text) (factory : Nat → Recipe) (destroy : Option (List DestroyAction))
  | fetch (name : Text)
  | isActive (name : Text)
  | scopeNames
  | refreshInstance (name : Text)
  | refreshInstances
  | write (path : FilePath) (content : FileContent)
  | delete (path : FilePath)
  | refresh (bootstrapper : Bootstrapper)

/-- The answer to a step. -/
inductive SessionAnswer
  | nothing
  | stack (answer : StackAnswer)
  | value (v : Value)
  | truth (b : Bool)
  | names (names : List Text)
  | text (s : String)
  | entries (t : Entries)
  | keys (keys : List Value)

namespace Session

/-- Changes the files. -/
def changeFiles (f : FileTree → Except Failure FileTree) : Act Unit := do
  let s ← get
  let files ← Act.ofExcept (f s.files)
  set { s with files := files }

/-- Changes the live environment. -/
def changeEnvironment (f : Environment → Environment) : Act Unit :=
  modify fun s => { s with environment := f s.environment }

/-- Changes the subscriptions. -/
def changePublisher (f : Publisher → Publisher) : Act Unit :=
  modify fun s => { s with publisher := f s.publisher }

/-- Whether the scope of a session publishes its own events. -/
def scopePublishes (kind : ScopeKind) : Bool :=
  match kind with
  | .lazy publishes => publishes
  | _ => true

/-- Carries a step out. -/
def run (r : Refresher) : SessionStep → Act SessionAnswer
  | .call call => return .stack (← Act.ofCall call)
  | .get key default => return .value (← Act.ofExcept ((← get).environment.get key default))
  | .contains key => return .truth (← Act.ofExcept ((← get).environment.holds key))
  | .profiles => return .names (← get).environment.effectiveProfiles
  | .setProfiles active defaults => do
    changeEnvironment fun env => { env with active := active, defaults := defaults }
    return .nothing
  | .shown => return .text (← get).environment.shown
  | .snapshot => return .entries (← r.snapshot)
  | .standardLayers =>
    return .names (r.rules.standard.eraseDups.mergeSort fun a b => !b.isBefore a)
  | .subscribe s => do
    changePublisher fun p => p.subscribe s
    return .nothing
  | .unsubscribe s => do
    let known := (← get).publisher.isSubscribed s
    changePublisher fun p => p.unsubscribe s
    return .truth known
  | .publish event => do
    Act.publish event
    return .nothing
  | .register name factory destroy => do
    Act.ofScope fun properties => LazyScope.register properties name factory destroy
    return .nothing
  | .fetch name => do
    let i ← Act.ofScope fun properties => LazyScope.fetch properties name
    return .value i.value
  | .isActive name => return .truth ((← get).scope.isActive name)
  | .scopeNames => return .names (← get).scope.names
  | .refreshInstance name => return .truth (← Act.refreshInstance (scopePublishes r.scope) name)
  | .refreshInstances => do
    Act.refreshInstances (scopePublishes r.scope)
    return .nothing
  | .write path content => do
    changeFiles fun files => files.write path content
    return .nothing
  | .delete path => do
    changeFiles fun files => files.delete path
    return .nothing
  | .refresh bootstrapper => do
    return .keys (Value.sortedKeys (← { r with bootstrapper := bootstrapper }.refresh))

end Session

end LiveConfig
