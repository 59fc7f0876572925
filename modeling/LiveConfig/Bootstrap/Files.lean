import LiveConfig.Bootstrap.Basic
import LiveConfig.File.Source

/-!
# Bootstraps from files

A bootstrap from files allocates two handles, one the parent of the other, reads the
configuration files anew and installs their layer in a copy of the live layers.
-/

namespace LiveConfig

namespace FileSource

/-- The environment of a request with the layer of all files installed. -/
def buildEnvironment (source : FileSource) (request : BootstrapRequest) : Loading Environment := do
  let env ← Loading.ofExcept request.toEnvironment
  let layer ← source.loadLayer env
  let stack ← Loading.ofExcept (env.stack.install layer)
  return { env with stack := stack }

/-- The name of the outer handle. -/
def outerHandle : String := "bootstrap"

/-- The name of the inner handle. -/
def innerHandle : String := "application"

/-- Tracks the two handles and gives the number of the inner one. -/
def trackHandles (t : Tracking) : Tracking × Nat :=
  let (t, outer) := t.track (Handle.make outerHandle none [])
  t.track (Handle.make innerHandle (some outer) [])

/-- Bootstraps from files, adding to what is tracked already. -/
def bootstrap (source : FileSource) (t : Tracking) (request : BootstrapRequest) (d : Desk) :
    Attempt × Desk :=
  let (t, inner) := trackHandles t
  let (built, d) := (source.buildEnvironment request).run d
  (⟨t, built.map fun env => ⟨env, some inner⟩⟩, d)

end FileSource

end LiveConfig
