import LiveConfig.File.Source
import LiveConfig.Session.Refresh
import LiveConfig.Settings.Origin
import LiveConfig.Stack.Merge
import LiveConfig.Text.LowerCase

/-!
# Settings

The settings of a process are given as arguments or, where these are silent, by variables of
several origins, the environment before all others.  A text given for a list is cut at its commas.
All settings are checked, and every value that cannot be used is reported, unless what is said of
one cannot be written.

Settings name the files that a process boots with and that a refresh reads anew, and the layers that
refreshes leave alone.
-/

namespace LiveConfig

/-- Why a given value cannot be used. -/
inductive SettingsCause
  | notText
  | notList
  | notPath
  /-- A name that no log level has, as given. -/
  | unknownLevel (given : Text)

/-- A value that cannot be used. -/
structure SettingsProblem where
  /-- The setting, with the position of a list member. -/
  location : String
  cause : SettingsCause

namespace SettingsCause

/-- What is said of a name that no log level has. -/
def unknownLevelText (given : Text) : Text :=
  "Unknown log level: " ++ given

/-- The kind of the problem. -/
def kind : SettingsCause → String
  | .notText => "string_type"
  | .notList => "list_type"
  | .notPath => "path_type"
  | .unknownLevel _ => "value_error"

def message : SettingsCause → Text
  | .notText => "Input should be a valid string"
  | .notList => "Input should be a valid list"
  | .notPath => "Input is not a valid path for <class 'pathlib.Path'>"
  | .unknownLevel given => "Value error, " ++ unknownLevelText given

/-- Why a problem cannot be reported, if what is said of the value cannot be written. -/
def unreportable? : SettingsCause → Option Failure
  | .unknownLevel given => (Text.Utf8.unwritable? (unknownLevelText given)).map .unwritable
  | _ => none

end SettingsCause

/-- The settings of a process. -/
structure Settings where
  /-- The base name of configuration files. -/
  configName : Text
  /-- Directories of configuration files, of lowest precedence first. -/
  locations : List FilePath
  active : List Text
  defaults : List Text
  /-- Further layers that are never merged and never compared. -/
  extraStandard : List Text
  /-- The name of the log level, in capitals. -/
  logLevel : String
  deriving Inhabited

/-- A setting that was checked, or all its problems. -/
abbrev Checked (α : Type) := Except (List SettingsProblem) α

namespace Checked

def problems {α : Type} : Checked α → List SettingsProblem
  | .ok _ => []
  | .error ps => ps

/-- Checks all members of a list and gathers their problems. -/
def all {α : Type} (check : Nat → Value → Checked α) :
    Nat → List Value → Checked (List α)
  | _, [] => .ok []
  | i, v :: vs =>
    match check i v, all check (i + 1) vs with
    | .ok a, .ok as => .ok (a :: as)
    | a, as => .error (problems a ++ problems as)

/-- A setting that was checked, all its problems, or why one of these cannot be reported. -/
def reported {α : Type} (c : Checked α) : Except Failure (Checked α) :=
  match c.problems.findSome? fun p => p.cause.unreportable? with
  | some failure => .error failure
  | none => .ok c

end Checked

namespace Settings

/-- The value of the first argument for a setting, in any letter case. -/
def fromArguments? (arguments : List (String × Value)) (name : String) : Option Value :=
  (arguments.find? fun a => (Text.lowered a.1).plain == name).map Prod.snd

/-- The value given for a setting: the argument, or else that of the first origin with one. -/
def given? (ask : SettingsLookup → Variables → String → Option Value)
    (arguments : List (String × Value)) (origins : List SettingsOrigin) (name : String) :
    Option Value :=
  (fromArguments? arguments name).or
    (origins.findSome? fun o => ask o.lookup o.vars name)

/-- A text setting. -/
def textOf (name : String) (default : Text) : Option Value → Checked Text
  | none => .ok default
  | some (.str s) => .ok s
  | some _ => .error [⟨name, .notText⟩]

/-- The place of a list member. -/
def memberName (name : String) (i : Nat) : String :=
  name ++ "." ++ toString i

/-- A list setting; a text is cut at its commas. -/
def listOf {α : Type} (name : String) (check : Nat → Value → Checked α) (default : List α) :
    Option Value → Checked (List α)
  | none => .ok default
  | some (.str s) => Checked.all check 0 ((Text.commaList s).map Value.str)
  | some (.list items) => Checked.all check 0 items
  | some _ => .error [⟨name, .notList⟩]

/-- A member of a list of texts. -/
def textMember (name : String) (i : Nat) : Value → Checked Text
  | .str s => .ok s
  | _ => .error [⟨memberName name i, .notText⟩]

/-- A member of a list of paths. -/
def pathMember (name : String) (i : Nat) : Value → Checked FilePath
  | .str s => .ok (FilePath.ofText s)
  | _ => .error [⟨memberName name i, .notPath⟩]

/-- The log level setting, a name in any letter case. -/
def levelOf (name default : String) (given : Option Value) : Checked String := do
  let text ← textOf name default given
  let level := Text.capitals text.plain
  if (LogLevel.ofName? level).isSome then return level
  else .error [⟨name, .unknownLevel text⟩]

/-- Directories searched when no others are given. -/
def defaultLocations : List FilePath :=
  [FilePath.ofText "config", FilePath.ofText "."]

/-- The settings given by arguments and variables, or all problems in order. -/
def check (arguments : List (String × Value)) (origins : List SettingsOrigin) :
    Checked Settings :=
  let text := given? SettingsLookup.text? arguments origins
  let list := given? SettingsLookup.list? arguments origins
  let texts (name : String) (default : List Text) : Checked (List Text) :=
    listOf name (textMember name) default (list name)
  let configName := textOf "config_name" Names.defaultConfigName (text "config_name")
  let locations := listOf "config_locations" (pathMember "config_locations") defaultLocations
    (list "config_locations")
  let active := texts "active_profiles" []
  let defaults := texts "default_profiles" [Names.defaultProfile]
  let extra := texts "extra_standard_layers" []
  let level := levelOf "log_level" "WARNING" (text "log_level")
  match configName, locations, active, defaults, extra, level with
  | .ok configName, .ok locations, .ok active, .ok defaults, .ok extra, .ok level =>
    .ok ⟨configName, locations, active, defaults, extra, level⟩
  | configName, locations, active, defaults, extra, level =>
    .error (configName.problems ++ locations.problems ++ active.problems ++ defaults.problems ++
      extra.problems ++ level.problems)

/-- The settings given by arguments and variables, or a report of all problems. -/
def make (arguments : List (String × Value)) (origins : List SettingsOrigin) :
    Except Failure (Checked Settings) :=
  (check arguments origins).reported

/--
The settings given by arguments, options among them, the environment, and the files that the
arguments name.
-/
def load (arguments : List (String × Value)) (vars : List (Text × Text)) :
    Loading (Checked Settings) := do
  let input ← SettingsInput.gather arguments vars
  Loading.ofExcept (make input.arguments input.origins)

/-- The layers never merged and never compared: the usual ones and the further ones. -/
def standardLayers (s : Settings) : List Text :=
  LiveConfig.standardLayers ++
    s.extraStandard.filter fun name => !LiveConfig.standardLayers.contains name

/-- The rules by which refreshes merge. -/
def rules (s : Settings) : MergeRules :=
  ⟨s.standardLayers, Names.defaultProperties⟩

/-- The configuration files that the settings name. -/
def source (s : Settings) : FileSource :=
  ⟨s.locations, s.configName⟩

/-- A refresher that reads the files of the settings. -/
def refresher (s : Settings) (publishes : Bool) (scope : ScopeKind) : Refresher where
  rules := s.rules
  bootstrapper := s.source.bootstrapper
  publishes := publishes
  scope := scope

/-- The least level of records to be written. -/
def recordLevel (s : Settings) : LogLevel :=
  (LogLevel.ofName? s.logLevel).getD .warning

/-- The environment variables as the entries of a layer. -/
def variableEntries (vars : List (Text × Text)) : Entries :=
  Table.ofList (vars.map fun v => (.str v.1, .str v.2))

/-- The environment before files are loaded: that of the process, and an empty catch-all layer. -/
def bareEnvironment (s : Settings) (vars : List (Text × Text)) :
    Except Failure Environment := do
  let process ← LayerStack.ofList (Environment.processLayers (variableEntries vars))
  let stack ← process.addLast (Layer.ofEntries Names.defaultProperties Table.empty)
  return ⟨stack, s.active, s.defaults⟩

/-- The environment that a process boots with. -/
def buildEnvironment (s : Settings) (vars : List (Text × Text)) :
    Loading Environment := do
  let env ← Loading.ofExcept (s.bareEnvironment vars)
  let layer ← s.source.loadLayer env
  let stack ← Loading.ofExcept (env.stack.install layer)
  return { env with stack := stack }

/-- The variable that names a file with further variables. -/
def variableFileName : String := "REKINDLE_ENV_FILE"

/-- The file with further variables, if it is named and there is something at its path. -/
def variableFile? (vars : List (Text × Text)) (files : FileTree) :
    Except Failure (Option Text) := do
  match vars.lookup (Text.ofString variableFileName) with
  | none => return none
  | some text =>
    if text.isEmpty then return none
    else if ← files.isPresent (FilePath.ofText text) then return some text
    else return none

end Settings

end LiveConfig
