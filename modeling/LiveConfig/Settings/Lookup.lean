import LiveConfig.Failure
import LiveConfig.Settings.VariableFile
import LiveConfig.Text.LowerCase
import LiveConfig.Value.Basic

/-!
# Looking settings up

A setting is given by an argument or, where there is none, by a variable whose name is that of
the setting behind a common start.  Names count in any letter case.  Arguments with an underscore
in front are no settings; they change how variables are looked up.
-/

namespace LiveConfig

/-- How settings are looked up among variables. -/
structure SettingsLookup where
  /-- What the names of variables start with. -/
  start : Text := "REKINDLE_"
  /-- Whether the letter case of variables matters. -/
  isExact : Bool := false
  /-- Whether empty variables count as unset. -/
  skipsEmpty : Bool := false
  /-- The value of variables that stands for null. -/
  nullText? : Option Text := none
  /-- What stands between a list and its member in the name of a variable, if not empty. -/
  separator : Text := ""

namespace SettingsLookup

/-- The text of an argument, if it is one. -/
def textArgument? (arguments : List (String × Value)) (name : String) : Option Text :=
  match arguments.lookup name with
  | some (.str s) => some s
  | _ => none

/-- Whether an argument is given and counts as set. -/
def isSet (arguments : List (String × Value)) (name : String) : Bool :=
  (arguments.lookup name).any Value.isTruthy

/-- Whether the names of variables have a start; the arguments may leave it to other names. -/
def hasStart (arguments : List (String × Value)) : Bool :=
  match arguments.lookup "_env_prefix_target" with
  | none | some .null => true
  | some (.str target) => target = "variable" ∨ target = "all"
  | some _ => false

/-- What the names of variables start with; a value that is no text makes no name. -/
def startArgument (arguments : List (String × Value)) : Except SettingsFault Text :=
  let usual : SettingsLookup := {}
  if !hasStart arguments then .ok ""
  else
    match arguments.lookup "_env_prefix" with
    | none | some .null => .ok usual.start
    | some (.str start) => .ok start
    | some _ => .error (.unreadable "config_name" "EnvSettingsSource")

/-- The way of looking up that arguments ask for. -/
def ofArguments (arguments : List (String × Value)) : Except SettingsFault SettingsLookup := do
  let usual : SettingsLookup := {}
  return { start := ← startArgument arguments
           isExact := isSet arguments "_case_sensitive"
           skipsEmpty := isSet arguments "_env_ignore_empty"
           nullText? := textArgument? arguments "_env_parse_none_str"
           separator := (textArgument? arguments "_env_nested_delimiter").getD usual.separator }

/-- A name as it is compared. -/
def key (l : SettingsLookup) (name : Text) : Text :=
  if l.isExact then name else Text.lowered name

/-- The name of the variable for a setting, as it is compared. -/
def variableKey (l : SettingsLookup) (name : Text) : Text :=
  l.key (l.start ++ name)

/-- The variables that count. -/
def counted (l : SettingsLookup) (vars : Variables) : Variables :=
  if l.skipsEmpty then vars.filter fun v => v.2 != some (Text.ofString "") else vars

/-- The value of a text setting: that of the last variable for it. -/
def text? (l : SettingsLookup) (vars : Variables) (name : String) : Option Value :=
  let found := (l.counted vars).filter fun v => l.key v.1 == l.variableKey name
  (found.getLast?.bind Prod.snd).map fun text =>
    if l.nullText? = some text then .null else .str text

/-- Whether there are variables for members of a list. -/
def hasMembers (l : SettingsLookup) (vars : Variables) (name : String) : Bool :=
  let start := l.variableKey name ++ l.separator
  !l.separator.isEmpty &&
    (l.counted vars).any fun v => start.points.isPrefixOf (l.key v.1).points

/-- The value of a list setting; variables for members make a map, which is no list. -/
def list? (l : SettingsLookup) (vars : Variables) (name : String) : Option Value :=
  (l.text? vars name).or (if l.hasMembers vars name then some (.map []) else none)

end SettingsLookup

end LiveConfig
