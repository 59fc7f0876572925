import LiveConfig.Environment
import LiveConfig.Handle.Release

/-!
# Bootstraps

A bootstrap builds a fresh environment from a description of the live one.  What it allocates on
the way is represented by handles.  It tracks handles so that they are released even if it
fails, and it may give one handle back together with the environment.
-/

namespace LiveConfig

/-- What a bootstrap starts from. -/
structure BootstrapRequest where
  layers : List Layer
  active : List Text
  defaults : List Text
  /-- A layer on top of all others, for this bootstrap only. -/
  overrides : Layer

namespace BootstrapRequest

/-- Describes an environment. -/
def ofEnvironment (env : Environment) (overrides : Layer) : BootstrapRequest :=
  ⟨env.stack.layers, env.active, env.defaults, overrides⟩

/-- The overrides followed by the live layers of other names. -/
def workLayers (r : BootstrapRequest) : List Layer :=
  r.overrides :: r.layers.filter fun layer => layer.name != r.overrides.name

/-- An environment to work on. -/
def toEnvironment (r : BootstrapRequest) : Except Failure Environment := do
  let stack ← LayerStack.ofList r.workLayers
  return ⟨stack, r.active, r.defaults⟩

end BootstrapRequest

/-- What a bootstrap builds: an environment and a handle to release when done with it. -/
structure BootstrapResult where
  environment : Environment
  context : Option Nat

/-- Handles and the numbers of those that are tracked, in order. -/
structure Tracking where
  handles : Handles
  tracked : List Nat

namespace Tracking

instance : Inhabited Tracking := ⟨⟨default, []⟩⟩

/-- Nothing allocated yet. -/
def empty : Tracking :=
  ⟨Handles.ofList [], []⟩

/-- Adds a handle, tracks it and gives its number. -/
def track (t : Tracking) (h : Handle) : Tracking × Nat :=
  let (handles, i) := t.handles.push h
  (⟨handles, t.tracked ++ [i]⟩, i)

end Tracking

/-- A bootstrap that has run, successfully or not. -/
structure Attempt where
  tracking : Tracking
  outcome : Except Failure BootstrapResult

namespace Attempt

/-- The handles to release, in order: that of the result, then the tracked ones, newest first. -/
def releaseOrder (a : Attempt) : List (Option Nat) :=
  let result :=
    match a.outcome with
    | .ok r => [r.context]
    | .error _ => []
  result ++ a.tracking.tracked.reverse.map some

/-- Releases everything that was allocated. -/
def release (a : Attempt) : Closing :=
  a.tracking.handles.releaseAll a.releaseOrder

end Attempt

end LiveConfig
