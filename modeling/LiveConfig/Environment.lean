import LiveConfig.Stack.Basic

/-!
# Environments

An environment is a layer stack with the names of the active profiles and of the profiles used
when none is active.  A property has the value of the first layer that holds it.
-/

namespace LiveConfig

/-! ## Names known to the program -/

namespace Names

/-- Properties of the process, set by the program at the start. -/
def systemProperties : String := "systemProperties"

/-- Environment variables of the process. -/
def systemEnvironment : String := "systemEnvironment"

/-- Directory-service properties of a hosting container. -/
def jndiProperties : String := "jndiProperties"

/-- Parameters of one servlet in a hosting container. -/
def servletConfig : String := "servletConfigInitParams"

/-- Parameters of one application in a hosting container. -/
def servletContext : String := "servletContextInitParams"

/-- The catch-all layer of lowest precedence. -/
def defaultProperties : String := "defaultProperties"

/-- The layer of overrides that exists during a bootstrap only. -/
def refreshArgs : String := "refreshArgs"

/-- The composite of all configuration files. -/
def applicationConfig : String := "applicationConfigurationProperties"

/-- What the name of a file's layer starts with. -/
def fileLayer : String := "applicationConfig"

/-- Turns management off while bootstrapping. -/
def jmxEnabledKey : String := "rekindle.jmx.enabled"

/-- Further component sources of a bootstrap. -/
def mainSourcesKey : String := "rekindle.main.sources"

/-- The base name of configuration files. -/
def configNameKey : String := "rekindle.config.name"

/-- The directories searched for configuration files. -/
def configLocationKey : String := "rekindle.config.location"

def defaultConfigName : String := "application"

def defaultProfile : String := "default"

/-- Endings of configuration files, in the order in which they are tried. -/
def fileEndings : List String := [".yaml", ".yml"]

end Names

/-- The layers that are never merged and never compared. -/
def standardLayers : List Text :=
  [Names.jndiProperties, Names.servletConfig, Names.servletContext, Names.systemEnvironment,
    Names.systemProperties]

/-- A layer stack with profiles. -/
structure Environment where
  stack : LayerStack
  active : List Text
  defaults : List Text

namespace Environment

instance : Inhabited Environment := ⟨⟨LayerStack.empty, [], []⟩⟩

/-- The layers of a process: no properties yet, and its environment variables. -/
def processLayers (vars : Entries) : List Layer :=
  [Layer.ofEntries Names.systemProperties Table.empty,
    Layer.ofEntries Names.systemEnvironment vars]

/-- The value of a property in the first layer that holds it. -/
def find? (env : Environment) (key : Value) : Except Failure (Option Value) :=
  Layer.findIn? key env.stack.layers

/-- The value of a property, or a default. -/
def get (env : Environment) (key default : Value) : Except Failure Value :=
  (env.find? key).map fun found => found.getD default

/-- Whether a layer holds a property. -/
def holds (env : Environment) (key : Value) : Except Failure Bool :=
  (env.find? key).map Option.isSome

/-- The active profiles, or the default ones if none is active. -/
def effectiveProfiles (env : Environment) : List Text :=
  if env.active.isEmpty then env.defaults else env.active

/-- The environment as shown in messages. -/
def shown (env : Environment) : String :=
  "Environment(layers=" ++ Text.quotedList env.stack.names ++ ", active_profiles=" ++
    Text.quotedList env.active ++ ")"

end Environment

namespace LayerStack

/-- The stack as shown in messages. -/
def shown (s : LayerStack) : String :=
  "LayerSources(" ++ Text.quotedList s.names ++ ")"

end LayerStack

end LiveConfig
