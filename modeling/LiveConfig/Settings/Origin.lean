import LiveConfig.File.Loading
import LiveConfig.Settings.Options

/-!
# Origins of settings

Variables for settings come from the environment, then from files of variables, and last from
directories of secrets, where each file is a variable.  Arguments name these files and
directories; what is not there is passed over.
-/

namespace LiveConfig

/-- Variables and how they are looked up. -/
structure SettingsOrigin where
  lookup : SettingsLookup
  vars : Variables

/-- What is given for settings. -/
structure SettingsInput where
  /-- The arguments, after those given as options. -/
  arguments : List (String × Value)
  /-- The origins of variables, of highest precedence first. -/
  origins : List SettingsOrigin

namespace SettingsOrigin

/-- A path that a value names. -/
def pathOf : Value → Except Failure FilePath
  | .str s => .ok (.ofText s)
  | other => .error (.misuse (.notPath other.kindName))

/-- What an argument names: one thing, or the members of a list. -/
def namedBy (arguments : List (String × Value)) (name : String) :
    Except Failure (List Value) :=
  match arguments.lookup name with
  | none | some .null => .ok []
  | some (.str s) => .ok [.str s]
  | some (.list items) => .ok items
  | some (.map entries) => .ok (entries.map Prod.fst)
  | some other => .error (.misuse (.notIterable other.kindName))

/-- A user's home without a variable that names it. -/
def usualHome : Text := "/root"

/-- The path that a value names, with the home of the user in place of a tilde. -/
def pathFromHome (vars : List (Text × Text)) (v : Value) : Except Failure FilePath := do
  let path ← pathOf v
  match path.withHome? ((vars.lookup (Text.ofString "HOME")).getD usualHome) with
  | some path => return path
  | none => throw .noHome

/-- The characters of the file at a path. -/
def readText (path : FilePath) : Loading (List Char) := do
  let d ← get
  let (reading, files) := d.files.read path
  set { d with files := files }
  match reading with
  | .data data =>
    match Text.Utf8.decode data with
    | .ok text => return unifyLineEnds text
    | .error fault => throw (.undecodable fault)
  | .unusable failure => throw failure
  | .problem code => throw (.system code path.text)

/-- The environment. -/
def ofEnvironment (lookup : SettingsLookup) (vars : List (Text × Text)) : SettingsOrigin :=
  ⟨lookup, vars.map fun v => (v.1, some v.2)⟩

/-! ## Files of variables -/

/-- The variables of the file at a path, if there is one; a mark in front of them is no name. -/
def variablesAt (vars : List (Text × Text)) (path : FilePath) : Loading Variables := do
  if ← Loading.ofExcept ((← get).files.isFile path) then
    match ← readText path with
    | '\ufeff' :: text | text => return VariableFile.assignments vars text
  else return []

/-- The variables of the files that some values name, those of later files last. -/
def variablesOf (vars : List (Text × Text)) : List Value → Loading Variables
  | [] => return []
  | v :: rest => do
    let found ← variablesAt vars (← Loading.ofExcept (pathFromHome vars v))
    return found ++ (← variablesOf vars rest)

/-! ## Secrets -/

/-- The directories of secrets that are there among some paths. -/
def directoriesAt : List FilePath → Loading (List FilePath)
  | [] => return []
  | path :: rest => do
    let here ← match ← Loading.ofExcept ((← get).files.find? path) with
      | none => pure []
      | some _ => pure [path]
    return here ++ (← directoriesAt rest)

/-- Refuses a file where a directory of secrets should be. -/
def checkDirectory (path : FilePath) : Loading Unit := do
  if ← Loading.ofExcept ((← get).files.isFile path) then
    throw (.settings .noSecretsDirectory)

/-- The path of the secret for a setting in a directory, if there is one. -/
def secretPath? (lookup : SettingsLookup) (files : FileTree) (setting : String)
    (directory : FilePath) : Option FilePath := do
  let bytes ← directory.bytes?
  let names := (files.namesIn bytes.withoutDots).map Text.Utf8.decodeName
  let name ← names.find? fun name => lookup.key name = lookup.variableKey setting
  some (directory.join ⟨"", [name]⟩)

/-- The secret for a setting in the first directory with a file for it. -/
def secretIn? (lookup : SettingsLookup) (setting : String) :
    List FilePath → Loading (Option Text)
  | [] => return none
  | directory :: rest => do
    match secretPath? lookup (← get).files setting directory with
    | none => secretIn? lookup setting rest
    | some path =>
      if ← Loading.ofExcept ((← get).files.isFile path) then
        return some (Text.strip (Text.ofChars (← readText path)))
      else secretIn? lookup setting rest

/-- The secret for a setting; a file that cannot be read makes the setting unreadable. -/
def secret? (lookup : SettingsLookup) (directories : List FilePath) (setting : String) :
    Loading (Option Text) :=
  tryCatch (secretIn? lookup setting directories) fun _ =>
    throw (.settings (.unreadable setting "SecretsSettingsSource"))

/-- The secrets for settings in some directories, of which later ones count more. -/
def secretsOf (lookup : SettingsLookup) (directories : List FilePath) :
    List String → Loading Variables
  | [] => return []
  | setting :: rest => do
    let here := match ← secret? lookup directories.reverse setting with
      | none => []
      | some text => [(lookup.variableKey setting, some text)]
    return here ++ (← secretsOf lookup directories rest)

/-- The secrets for settings in the directories that some values name. -/
def secretsAt (lookup : SettingsLookup) (vars : List (Text × Text)) (named : List Value) :
    Loading Variables := do
  let directories ← directoriesAt (← Loading.ofExcept (named.mapM (pathFromHome vars)))
  directories.forM checkDirectory
  secretsOf lookup directories settingNames

end SettingsOrigin

/-- Gathers what arguments and variables give for settings, in the order in which it can fail. -/
def SettingsInput.gather (arguments : List (String × Value)) (vars : List (Text × Text)) :
    Loading SettingsInput := do
  let named (name : String) : Loading (List Value) :=
    Loading.ofExcept (SettingsOrigin.namedBy arguments name)
  let fromFiles ← SettingsOrigin.variablesOf vars (← named "_env_file")
  let options ← Loading.ofExcept (SettingsOptions.ofArguments arguments)
  let lookup ← Loading.ofExcept ((SettingsLookup.ofArguments arguments).mapError .settings)
  let plain : SettingsLookup := { start := lookup.start, isExact := lookup.isExact }
  let secrets ← SettingsOrigin.secretsAt plain vars (← named "_secrets_dir")
  return ⟨options ++ arguments,
    [.ofEnvironment lookup vars, ⟨lookup, fromFiles⟩, ⟨plain, secrets⟩]⟩

end LiveConfig
