import LiveConfig.Session.Refresh

/-!
# Scripted bootstraps

A bootstrap given as data: which handles it allocates and tracks, whether it fails, which
environment it builds, and what it then does to the layers of that environment.

The environment may hold layers of the live one.  Such a layer is the same object in both, so an
edit of its entries is seen in the live environment too.
-/

namespace LiveConfig

/-- The environment that a scripted bootstrap builds. -/
inductive ScriptSource
  /-- The one that a bootstrap from files builds; its handles say when they are closed. -/
  | files (source : FileSource)
  /-- The one that the request describes. -/
  | request
  /-- The overrides, unless they are left out, and some layers. -/
  | layers (overridden : Bool) (layers : List Layer)

/-- A bootstrap as data. -/
structure BootstrapScript where
  handles : List Handle
  tracked : List Nat
  failure : Option Failure
  source : ScriptSource
  calls : List StackCall
  /-- The handle given back with the environment. -/
  context : Option Nat

namespace BootstrapScript

instance : Inhabited BootstrapScript := ⟨⟨[], [], none, .layers true [], [], none⟩⟩

/-- The names of live layers that are shared, after a call. -/
def sharedAfter (shared : List Text) : StackCall → List Text
  | .replace name layer => (shared.erase name).erase layer.name
  | .remove name => shared.erase name
  | .addFirst layer | .addLast layer | .addBefore _ layer | .addAfter _ layer =>
    shared.erase layer.name
  | _ => shared

/-- The layer whose entries a call edits. -/
def editedBy : StackCall → Option Text
  | .put name _ _ => some name
  | .drop name _ => some name
  | _ => none

/-- Repeats an edit of a shared layer in the live environment. -/
def shareEdit (shared : List Text) (call : StackCall) : Act Unit := do
  match editedBy call with
  | none => pure ()
  | some name =>
    if shared.contains name then
      let _ ← Act.ofCall call

/-- Carries out calls on the layers of the fresh environment. -/
def runCalls (shared : List Text) : List StackCall → StackDesk → Act LayerStack
  | [], desk => return desk.stack
  | call :: rest, desk => do
    let (desk, _) ← Act.ofExcept (desk.run call)
    shareEdit shared call
    runCalls (sharedAfter shared call) rest desk

/-- The environment that a script starts from and the names of the live layers in it. -/
def startEnvironment (script : BootstrapScript) (request : BootstrapRequest) :
    Except Failure (Environment × List Text) :=
  match script.source with
  | .layers overridden layers => do
    let all := if overridden then request.overrides :: layers else layers
    return (⟨← LayerStack.ofList all, [], [Names.defaultProfile]⟩, [])
  | _ => do
    let env ← request.toEnvironment
    return (env, env.stack.names.erase request.overrides.name)

/-- Builds the environment of a script that reads no files. -/
def build (script : BootstrapScript) (request : BootstrapRequest) : Act BootstrapResult := do
  let (env, shared) ← Act.ofExcept (script.startEnvironment request)
  let stack ← runCalls shared script.calls (StackDesk.ofStack env.stack)
  Act.note (.fresh stack.names)
  return ⟨{ env with stack := stack }, script.context⟩

/-- A close callback that says that a handle is closed. -/
def sayClosed (name : Text) : List CloseAction :=
  [.say [.str "close", .str name]]

/-- Registers a callback on every tracked handle that says that it is closed. -/
def sayWhenClosed (t : Tracking) : Tracking :=
  let handles := t.tracked.foldl (fun handles i =>
    match handles.get? i with
    | some h => handles.onClose i (sayClosed h.name)
    | none => handles) t.handles
  { t with handles := handles }

/-- The note of a request. -/
def requestNote (request : BootstrapRequest) : Note :=
  .request (request.layers.map Layer.name) request.active request.defaults request.overrides

/-- The bootstrapper that does what a script says. -/
def bootstrapper (script : BootstrapScript) : Bootstrapper := fun request s =>
  let s := { s with journal := s.journal.note (requestNote request) }
  let tracking : Tracking := ⟨Handles.ofList script.handles, script.tracked⟩
  match script.failure with
  | some failure => (⟨tracking, .error failure⟩, s)
  | none =>
    match script.source with
    | .files source =>
      let (attempt, s) := source.bootstrapWith tracking request s
      ({ attempt with tracking := sayWhenClosed attempt.tracking }, s)
    | _ =>
      let (result, s) := (script.build request).run s
      (⟨tracking, result⟩, s)

end BootstrapScript

end LiveConfig
