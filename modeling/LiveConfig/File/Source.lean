import LiveConfig.File.Loading

/-!
# Configuration files as a source of a layer

A file source knows the directories and the base name used when the environment sets none.  Its
layer is a composite with one child per file, of highest precedence first.
-/

namespace LiveConfig

/-- Where configuration files are looked for by default. -/
structure FileSource where
  locations : List FilePath
  name : Text
  deriving Inhabited

namespace FileSource

/-- The members of a configured list of directories that are set. -/
def locationMembers (configured : Value) : Except Failure (List Value) :=
  match configured with
  | .str s => .ok ((Text.split ',' s).map fun part => .str (Text.strip part))
  | .list items | .tuple items | .set items => .ok items
  | .map entries => .ok (entries.map Prod.fst)
  | .bytes data => .ok (data.map fun b => .int b.toNat)
  | other => .error (.misuse (.notIterable other.fullKindName))

/-- The directory that a member stands for. -/
def locationOf (member : Value) : Except Failure FilePath :=
  match member with
  | .str s => .ok (FilePath.ofText s)
  | .bytes _ => .error (.misuse .bytesPath)
  | other => .error (.misuse (.notPath other.kindName))

/-- The directories set by a value. -/
def locationsOf (configured : Value) : Except Failure (List FilePath) := do
  let members ← locationMembers configured
  (members.filter Value.isTruthy).mapM locationOf

/-- The directories to search in an environment. -/
def resolveLocations (source : FileSource) (env : Environment) :
    Except Failure (List FilePath) := do
  match ← env.get (.str Names.configLocationKey) .null with
  | .null => return source.locations
  | .str s => if s.isEmpty then return source.locations else locationsOf (.str s)
  | .flawed reason _ => .error (.incomparable reason)
  | configured => locationsOf configured

/-- The base name of files in an environment. -/
def resolveName (source : FileSource) (env : Environment) : Except Failure Text := do
  let configured ← env.get (.str Names.configNameKey) .null
  if configured.isTruthy then configured.inFull else return source.name

/-- The files to load in an environment. -/
def resolveFiles (source : FileSource) (env : Environment) (files : FileTree) :
    Except Failure (List FilePath) := do
  let locations ← source.resolveLocations env
  let name ← source.resolveName env
  findConfigFiles files locations name env.effectiveProfiles

/-- Loads the layer of all configuration files. -/
def loadLayer (source : FileSource) (env : Environment) : Loading Layer := do
  let paths ← Loading.ofExcept (source.resolveFiles env (← get).files)
  let children ← loadLayers paths
  Loading.record .debug .files
    ("Loaded " ++ toString paths.length ++ " configuration file(s): " ++ shownPaths paths)
  return Layer.ofChildren Names.applicationConfig children

end FileSource

/--
Puts a layer in the place of the one of its name, or else right above the catch-all layer, or
else last.
-/
def LayerStack.install (s : LayerStack) (layer : Layer) : Except Failure LayerStack :=
  if s.contains layer.name then (s.replace layer.name layer).map Prod.fst
  else if s.contains Names.defaultProperties then s.addBefore Names.defaultProperties layer
  else s.addLast layer

end LiveConfig
