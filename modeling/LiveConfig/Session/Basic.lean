import LiveConfig.Bootstrap.Files
import LiveConfig.Publisher
import LiveConfig.Scope.Basic
import LiveConfig.Stack.Call

/-!
# Sessions

A session is a running program: the live environment, a publisher with its listeners, a scope,
the files, and a journal of what was noted and logged.  An `Act` is a step of a session; what it
did before it fails stays done.
-/

namespace LiveConfig

/-- What a listener does with an event, one action after another. -/
inductive ListenerAction
  | fail (failure : Failure)
  | publish (event : Event)
  | subscribe (type : EventType) (listener : Text)
  | unsubscribe (type : EventType) (listener : Text)
  /-- Looks a property up. -/
  | property (key : Value)
  /-- Fetches an instance. -/
  | fetch (name : Text)
  /-- Asks whether an instance is there. -/
  | ask (name : Text)

/-- A running program. -/
structure Session where
  environment : Environment
  /-- Snapshots kept of the live layers. -/
  saved : List (List Layer)
  publisher : Publisher
  listeners : Table Text (List ListenerAction)
  scope : LazyScope
  files : FileTree
  /-- The number of the next not-a-number that a document makes. -/
  nextNan : Nat
  /-- Whether a refresh is under way; there is one at a time. -/
  refreshing : Bool
  journal : Journal

instance : Inhabited Session :=
  ⟨⟨default, [], default, Table.empty, default, default, 1, false, Journal.empty⟩⟩

/-- A step of a session. -/
abbrev Act := ExceptT Failure (StateM Session)

namespace Act

def ofExcept {α : Type} (x : Except Failure α) : Act α :=
  ExceptT.mk (pure x)

def note (n : Note) : Act Unit :=
  modify fun s => { s with journal := s.journal.note n }

def record (level : LogLevel) (channel : LogChannel) (text : Text) : Act Unit :=
  modify fun s => { s with journal := s.journal.record level channel text }

/-- Adds the records of a computation and goes on with its outcome. -/
def ofTraced {α : Type} (x : Traced α) : Act α := do
  modify fun s => { s with journal := s.journal.addRecords x.log }
  ofExcept x.outcome

/-- The properties of an environment, null where there is none. -/
def propertiesOf (env : Environment) : PropertySource :=
  fun key => env.get key .null

/-- Works with the scope. -/
def ofScope {α : Type} (f : PropertySource → LazyScope → LazyScope.Step α) : Act α := do
  let s ← get
  let (result, scope) := f (propertiesOf s.environment) { s.scope with journal := Journal.empty }
  set { s with
    scope := { scope with journal := Journal.empty }
    journal := s.journal ++ scope.journal }
  ofExcept result

/-- Changes the live layers by a call. -/
def ofCall (call : StackCall) : Act StackAnswer := do
  let s ← get
  let (desk, answer) ← ofExcept (StackDesk.run ⟨s.environment.stack, s.saved⟩ call)
  set { s with
    environment := { s.environment with stack := desk.stack }
    saved := desk.saved }
  return answer

end Act

end LiveConfig
