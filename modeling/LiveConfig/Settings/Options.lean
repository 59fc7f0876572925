import LiveConfig.Settings.Lookup
import LiveConfig.Text.Digit

/-!
# Options for settings

Settings can also be given as the words of a command line.  A word such as `--log_level` names a
setting; its value is the next word, or is joined to the name by an equals sign.  A setting that
is a list can be given several times.

A word with a hyphen in front is no value, unless it is a number, has a space in it or is the
hyphen alone; two hyphens by themselves end the options.  Words that belong to no option are
refused or, where this is asked for, left out.
-/

namespace LiveConfig

/-- The settings by their names, each with whether it is a list. -/
def settingKinds : List (String × Bool) :=
  [("config_name", false), ("config_locations", true), ("active_profiles", true),
    ("default_profiles", true), ("extra_standard_layers", true), ("log_level", false)]

/-- The names of settings. -/
def settingNames : List String :=
  settingKinds.map Prod.fst

/-- How options for settings are written. -/
structure OptionStyle where
  /-- What stands between the hyphens and the name of a setting. -/
  start : Text
  /-- Whether names have hyphens in place of underscores. -/
  isHyphenated : Bool
  /-- Whether the letter case of options matters. -/
  isExact : Bool
  /-- Whether words that belong to no option are left out. -/
  skipsUnknown : Bool
  /-- The value that stands for null. -/
  nullText : Text

/-- What a word says on its own. -/
inductive OptionWord
  /-- The option for a setting, with a value joined to it or not. -/
  | option (setting : String) (joined : Option Text)
  | help
  /-- The option for help with a value that it does not take. -/
  | helpWith (joined : Text)
  /-- A word that looks like an option and is none. -/
  | unknown
  /-- The end of the options. -/
  | finish
  | plain

/-- The options among some words, and the words that belong to none. -/
structure OptionWords where
  given : List (String × Text)
  others : List Text

namespace OptionStyle

/-- The word that names a setting. -/
def flag (s : OptionStyle) (setting : String) : Text :=
  let name : Text := s.start ++ setting
  let written : CodePoint → CodePoint := fun p =>
    if s.isHyphenated && p == .char '_' then .char '-' else p
  "--" ++ ⟨name.points.map written⟩

/-- The setting that a word names. -/
def setting? (s : OptionStyle) (word : Text) : Option String :=
  settingNames.find? fun setting => s.flag setting = word

/-- Whether a code point can stand in the part of an option where letter case may not matter. -/
def isFlagPoint (p : CodePoint) : Bool :=
  !Text.isBlankPoint p && p != .char '='

/--
A word as it is read: where letter case does not matter, an option is written in small letters,
and what is joined to it ends with the line.
-/
def read (s : OptionStyle) (word : Text) : Text :=
  match s.isExact, word.points with
  | false, .char '-' :: p :: _ =>
    if isFlagPoint p then
      Text.lowered ⟨word.points.takeWhile isFlagPoint⟩ ++
        ⟨(word.points.dropWhile isFlagPoint).takeWhile (· != .char '\n')⟩
    else word
  | _, _ => word

/-- Whether some code points are decimal digits, and at least one. -/
def areDigits (ps : List CodePoint) : Bool :=
  !ps.isEmpty && ps.all fun p => (p.char?.bind Text.asciiDigit?).isSome

/-- Whether code points behind a hyphen make a number: digits, with a point before the last. -/
def isNumber (ps : List CodePoint) : Bool :=
  let whole := ps.takeWhile (· != .char '.')
  match ps.dropWhile (· != .char '.') with
  | [] => areDigits whole
  | _ :: decimals => (whole.isEmpty || areDigits whole) && areDigits decimals

/-- A word whose part before an equals sign is an option. -/
def joinedWord? (s : OptionStyle) (word : Text) : Option OptionWord :=
  let name : Text := ⟨word.points.takeWhile (· != .char '=')⟩
  match word.points.dropWhile (· != .char '=') with
  | [] => none
  | _ :: value =>
    if name = "--help" ∨ name = "-h" then some (.helpWith ⟨value⟩)
    else (s.setting? name).map fun setting => .option setting (some ⟨value⟩)

/-- What a word says that starts with a hyphen and is no option by itself. -/
def looseWord (s : OptionStyle) (word : Text) : OptionWord :=
  match s.joinedWord? word with
  | some w => w
  | none =>
    match word.points with
    | [_] => .plain
    | _ :: .char 'h' :: _ => .help
    | _ :: rest => if isNumber rest || rest.contains (.char ' ') then .plain else .unknown
    | [] => .plain

/-- What a word says. -/
def word (s : OptionStyle) (word : Text) : OptionWord :=
  if word = "--" then .finish
  else if word.points.head? != some (.char '-') then .plain
  else if word = "--help" then .help
  else
    match s.setting? word with
    | some setting => .option setting none
    | none => s.looseWord word

/-- A word that belongs to no option, before others. -/
def withOther (word : Text) (w : OptionWords) : OptionWords :=
  { w with others := word :: w.others }

/-- An option before others. -/
def withOption (setting : String) (value : Text) (w : OptionWords) : OptionWords :=
  { w with given := (setting, value) :: w.given }

/-- Why words are refused: a call for help ends the process well, and a fault does not. -/
inductive Refusal
  | help
  | fault (fault : OptionFault)

/-- Reads the words up to the first one that is refused. -/
def parse (s : OptionStyle) : List Text → Except Refusal OptionWords
  | [] => .ok ⟨[], []⟩
  | first :: rest =>
    match s.word first with
    | .finish => .ok ⟨[], first :: rest⟩
    | .help => .error .help
    | .helpWith joined => .error (.fault (.needlessValue joined))
    | .option setting (some value) => (s.parse rest).map (withOption setting value)
    | .option setting none =>
      match rest with
      | [] => .error (.fault (.missingValue (s.flag setting)))
      | value :: rest =>
        match s.word value with
        | .plain => (s.parse rest).map (withOption setting value)
        | _ => .error (.fault (.missingValue (s.flag setting)))
    | .unknown | .plain => (s.parse rest).map (withOther first)

/-- The options among words; words that belong to none are refused unless they are left out. -/
def options (s : OptionStyle) (words : List Text) : Except Refusal (List (String × Text)) :=
  match s.parse (words.map s.read) with
  | .error refusal => .error refusal
  | .ok w =>
    if w.others.isEmpty || s.skipsUnknown then .ok w.given
    else .error (.fault (.unknown w.others))

/-- The value of a setting: all those given for a list, and the last one for a text. -/
def value? (s : OptionStyle) (given : List (String × Text)) (setting : String)
    (isList : Bool) : Option Value :=
  let values := (given.filter fun o => o.1 == setting).map Prod.snd
  let text? := if isList && !values.isEmpty then some (Text.joined "," values) else values.getLast?
  text?.map fun text => if text = s.nullText then .null else .str text

/-- The values that options give to settings. -/
def values (s : OptionStyle) (given : List (String × Text)) : List (String × Value) :=
  settingKinds.filterMap fun (setting, isList) =>
    (s.value? given setting isList).map fun value => (setting, value)

end OptionStyle

namespace SettingsOptions

/-- The words that an argument gives, if it does. -/
def wordsArgument (arguments : List (String × Value)) : Except Failure (Option (List Text)) :=
  match arguments.lookup "_cli_parse_args" with
  | none | some .null | some (.bool _) | some (.int 0) => .ok none
  | some (.list items) =>
    some <$> items.mapM fun
      | .str s => .ok s
      | item =>
        if item.isTruthy then .error (.misuse (.notText item.kindName)) else .ok ""
  | some other => .error (.settings (.noWords other.kindName))

/-- Whether a character can stand in the start of options. -/
def isStartChar (c : Char) : Bool :=
  c.isAlphanum || c == '_' || c == '.' || 128 ≤ c.toNat

/-- Whether options can start with a text: names with points between them. -/
def isStart (start : Text) : Bool :=
  let points := start.points
  points.all (fun p => p.char?.any isStartChar) && points.head? != some (.char '.') &&
    points.getLast? != some (.char '.') && !points.head?.any fun p => p.char?.any Char.isDigit

/-- What options start with: a text of an argument with a point behind it, or nothing. -/
def startArgument (arguments : List (String × Value)) : Except Failure Text :=
  match SettingsLookup.textArgument? arguments "_cli_prefix" with
  | none => .ok ""
  | some start =>
    if start.isEmpty then .ok ""
    else if isStart start then .ok (start ++ ".")
    else .error (.settings (.optionStart start))

/-- The value that stands for null: that for variables, if there is one, or else one of its own. -/
def nullText (arguments : List (String × Value)) : Text :=
  let given (name : String) : Option Text :=
    (SettingsLookup.textArgument? arguments name).filter fun text => !text.isEmpty
  let usual : Text := if SettingsLookup.isSet arguments "_cli_avoid_json" then "None" else "null"
  ((given "_env_parse_none_str").or (given "_cli_parse_none_str")).getD usual

/-- The style of options that arguments ask for. -/
def styleOf (arguments : List (String × Value)) : Except Failure OptionStyle := do
  let start ← startArgument arguments
  let isSet := SettingsLookup.isSet arguments
  return { start := start
           isHyphenated := isSet "_cli_kebab_case"
           isExact := isSet "_case_sensitive"
           skipsUnknown := isSet "_cli_ignore_unknown_args"
           nullText := nullText arguments }

/-- The failure of refused words: mostly, they end the process. -/
def failureOf (arguments : List (String × Value)) : OptionStyle.Refusal → Failure
  | .help => .exit 0
  | .fault fault =>
    match arguments.lookup "_cli_exit_on_error" with
    | none | some .null => .exit 2
    | some v => if v.isTruthy then .exit 2 else .settings (.options fault)

/-- The settings that arguments give as options. -/
def ofArguments (arguments : List (String × Value)) :
    Except Failure (List (String × Value)) := do
  match ← wordsArgument arguments with
  | none => return []
  | some words =>
    let style ← styleOf arguments
    match style.options words with
    | .ok given => return style.values given
    | .error refusal => throw (failureOf arguments refusal)

end SettingsOptions

end LiveConfig
