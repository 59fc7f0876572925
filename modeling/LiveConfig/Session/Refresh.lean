import LiveConfig.ChangeSet
import LiveConfig.Layer.Extract
import LiveConfig.Session.Publish
import LiveConfig.Stack.Merge

/-!
# Refreshing the live environment

A refresh takes a snapshot, bootstraps a fresh environment, merges its layers into the live
ones, releases all that the bootstrap allocated, and takes another snapshot.  The keys that
differ are published, and the scope is told to discard its instances.

What was allocated is released also if the bootstrap or the merge fails; the failure then goes
on unless an interruption of the release takes its place.
-/

namespace LiveConfig

/-- A way to build a fresh environment within a session. -/
abbrev Bootstrapper := BootstrapRequest → Session → Attempt × Session

/-- The scope that a refresh tells to discard its instances. -/
inductive ScopeKind
  /-- The scope of the session, which publishes its own events or not. -/
  | lazy (publishes : Bool)
  /-- A scope that only notes that it was told. -/
  | recording
  /-- A scope that notes it and fails. -/
  | failing (failure : Failure)

/-- How a session is refreshed. -/
structure Refresher where
  rules : MergeRules
  bootstrapper : Bootstrapper
  /-- Whether changed keys are published. -/
  publishes : Bool
  scope : ScopeKind

/-- The overrides of every bootstrap made for a refresh. -/
def refreshOverrides : Layer :=
  Layer.ofEntries Names.refreshArgs
    (Table.ofList [(.str Names.jmxEnabledKey, .bool false), (.str Names.mainSourcesKey, .str "")])

/-- Tells a scope to discard its instances. -/
def ScopeKind.refreshAll : ScopeKind → Act Unit
  | .lazy publishes => Act.refreshInstances publishes
  | .recording => Act.note .refreshAll
  | .failing failure => do
    Act.note .refreshAll
    throw failure

namespace Refresher

/-- The effective values of the live layers but the standard ones. -/
def snapshot (r : Refresher) : Act Entries := do
  Act.ofTraced (extract r.rules.standard (← get).environment.stack.layers)

/-- The layers of a bootstrap without the overrides. -/
def incomingLayers (result : BootstrapResult) : Except Failure (List Layer) :=
  let stack := result.environment.stack
  if stack.contains Names.refreshArgs then
    (stack.remove Names.refreshArgs).map fun removed => removed.1.layers
  else .ok stack.layers

/-- Merges the result of a bootstrap into the live layers. -/
def mergeResult (r : Refresher) (result : BootstrapResult) : Act Unit := do
  let incoming ← Act.ofExcept (incomingLayers result)
  let s ← get
  let (live, report) ← Act.ofTraced (merge r.rules s.environment.stack incoming)
  modify fun s => { s with environment := { s.environment with stack := live } }
  Act.record .debug .refreshing ("Reconciled layers: " ++ report.text)

/-- Releases what a bootstrap allocated; only an interruption is a failure. -/
def releaseAttempt (attempt : Attempt) : Act Unit := do
  let (handles, interruption) := attempt.release
  modify fun s => { s with journal := s.journal ++ handles.journal }
  match interruption with
  | none => pure ()
  | some failure => throw failure

/-- Does one thing and then another in any case; a failure of the latter takes precedence. -/
def andAlways (x : Act Unit) (cleanup : Act Unit) : Act Unit := fun s =>
  let (outcome, s) := x s
  match cleanup s with
  | (.ok (), s) => (outcome, s)
  | (.error e, s) => (.error e, s)

/-- Bootstraps, merges and releases. -/
def reload (r : Refresher) : Act Unit := do
  let s ← get
  let request := BootstrapRequest.ofEnvironment s.environment refreshOverrides
  let (attempt, s) := r.bootstrapper request s
  set s
  andAlways (Act.ofExcept attempt.outcome >>= r.mergeResult) (releaseAttempt attempt)

/-- The record of a refresh. -/
def refreshedText (count : Nat) : String :=
  "Refreshed environment: " ++ toString count ++ " key(s) changed"

/-- Refreshes the live environment and gives the keys that changed, whatever else is going on. -/
def refreshNow (r : Refresher) : Act (List Value) := do
  let before ← r.snapshot
  r.reload
  let after ← r.snapshot
  let changed ← Act.ofExcept (changes before after)
  let keys := changed.keys
  Act.record .info .refreshing (refreshedText keys.length)
  Act.publishIf r.publishes (.environmentChange keys)
  r.scope.refreshAll
  return keys

/-- Sets whether a refresh is under way. -/
def setRefreshing (b : Bool) (s : Session) : Session :=
  { s with refreshing := b }

/--
Refreshes the live environment and gives the keys that changed.  A refresh that was started
within another one would wait for it for ever, so it is refused.
-/
def refresh (r : Refresher) : Act (List Value) := fun s =>
  if s.refreshing then (.error .refreshInRefresh, s)
  else
    let (outcome, s) := r.refreshNow (setRefreshing true s)
    (outcome, setRefreshing false s)

end Refresher

/-- The bootstrapper that reads files, adding to what is tracked already. -/
def FileSource.bootstrapWith (source : FileSource) (t : Tracking) : Bootstrapper := fun request s =>
  let (attempt, d) := source.bootstrap t request ⟨s.files, [], s.nextNan⟩
  (attempt, { s with
    files := d.files
    nextNan := d.nextNan
    journal := s.journal.addRecords d.log })

/-- The bootstrapper that reads files. -/
def FileSource.bootstrapper (source : FileSource) : Bootstrapper :=
  source.bootstrapWith Tracking.empty

end LiveConfig
