import LiveConfig.Text.Utf8
import LiveConfig.Value.Text

/-!
# Failures

Everything that can go wrong, as causes, and one function that words them.  An interruption is
the one failure that is not ordinary: nothing that tolerates failures tolerates it.
-/

namespace LiveConfig

/-- The kinds of failure that configuration and scripted collaborators can raise. -/
inductive FailureKind
  | runtime
  | value
  | key
  | system
  | interrupt
  deriving DecidableEq

/-- What the system says when a path cannot be used. -/
inductive SystemCode
  | notFound
  | denied
  | exists
  | notDirectory
  | isDirectory
  | nameTooLong
  deriving DecidableEq

namespace SystemCode

def number : SystemCode → Nat
  | .notFound => 2
  | .denied => 13
  | .exists => 17
  | .notDirectory => 20
  | .isDirectory => 21
  | .nameTooLong => 36

def text : SystemCode → String
  | .notFound => "No such file or directory"
  | .denied => "Permission denied"
  | .exists => "File exists"
  | .notDirectory => "Not a directory"
  | .isDirectory => "Is a directory"
  | .nameTooLong => "File name too long"

/-- The message about a path. -/
def message (code : SystemCode) (path : Text) : String :=
  "[Errno " ++ toString code.number ++ "] " ++ code.text ++ ": " ++ Text.quoted path

end SystemCode

/-- What is wrong with a configuration file. -/
inductive FileProblem
  | denied (path : Text)
  | unreadable (code : SystemCode) (path : Text)
  | malformed
  /-- The document is of another kind than a map. -/
  | notMap (kind : String)

def FileProblem.message : FileProblem → String
  | .denied path => "permission denied: " ++ SystemCode.denied.message path
  | .unreadable code path => "cannot read file: " ++ code.message path
  | .malformed => "invalid YAML"
  | .notMap kind => "config must be a YAML mapping (dict), got " ++ kind

/-- A scalar of a valid form whose value is impossible. -/
inductive ScalarProblem
  | calendar (fault : CalendarFault)
  /-- A text that is no whole number in a base. -/
  | integer (base : Nat) (text : Text)
  /-- A whole number with more digits than are read. -/
  | longInteger (digits : Nat)
  | decimal (text : Text)
  /-- A part of a number in base sixty that counts more than the greatest double. -/
  | longSixtieths
  /-- A number above the last code point. -/
  | codePoint
  /-- The same, with more than 31 bits. -/
  | longCodePoint

/-- A quoted text as far as a message about a whole number shows it. -/
def shortQuoted (text : Text) : String :=
  String.ofList (text.quoted.toList.take 200)

def ScalarProblem.message : ScalarProblem → String
  | .calendar fault => fault.message
  | .integer base text =>
    "invalid literal for int() with base " ++ toString base ++ ": " ++ shortQuoted text
  | .longInteger digits =>
    "Exceeds the limit (4300 digits) for integer string conversion: value has " ++
      toString digits ++ " digits; use sys.set_int_max_str_digits() to increase the limit"
  | .decimal text => "could not convert string to float: " ++ text.quoted
  | .longSixtieths => "int too large to convert to float"
  | .codePoint => "chr() arg not in range(0x110000)"
  | .longCodePoint => "Python int too large to convert to C int"

/-- A value used as something that it is not. -/
inductive Misuse
  | notIterable (kind : String)
  | notPath (kind : String)
  | bytesPath
  | notText (kind : String)
  | unordered (left right : String)
  /-- A date and a moment, of which neither comes first. -/
  | unorderedDates
  /-- A moment with an offset and one without, of which neither comes first. -/
  | unorderedClocks
  | badKey (kind : String)
  /-- A value used as a key that cannot serve as one. -/
  | unkeyable (kind : String)

def Misuse.message : Misuse → String
  | .notIterable kind => Text.quoted kind ++ " object is not iterable"
  | .notPath kind => "expected str, bytes or os.PathLike object, not " ++ kind
  | .bytesPath =>
    "argument should be a str object or an os.PathLike object returning str, not <class 'bytes'>"
  | .notText kind => "expected string or bytes-like object, got " ++ Text.quoted kind
  | .unordered left right =>
    "'<' not supported between instances of " ++ Text.quoted left ++ " and " ++ Text.quoted right
  | .unorderedDates => "can't compare datetime.datetime to datetime.date"
  | .unorderedClocks => "can't compare offset-naive and offset-aware datetimes"
  | .badKey kind => "keys must be str, int, float, bool or None, not " ++ kind
  | .unkeyable kind => "unhashable type: " ++ Text.quoted kind

/-- Why words cannot be read as options for settings. -/
inductive OptionFault
  | missingValue (option : Text)
  /-- A value joined to the option for help, which takes none. -/
  | needlessValue (value : Text)
  | unknown (words : List Text)

def OptionFault.message : OptionFault → Text
  | .missingValue option => "argument " ++ option ++ ": expected one argument"
  | .needlessValue value => "argument -h/--help: ignored explicit argument " ++ Text.quoted value
  | .unknown words => "unrecognized arguments: " ++ Text.joined " " words

/-- Why settings cannot be looked up. -/
inductive SettingsFault
  /-- A file where a directory of secrets should be. -/
  | noSecretsDirectory
  | options (fault : OptionFault)
  /-- A value of some kind where a list of words should be. -/
  | noWords (kind : String)
  /-- A text that no option can start with. -/
  | optionStart (start : Text)
  /-- A setting that an origin cannot be asked for. -/
  | unreadable (setting origin : String)

def SettingsFault.message : SettingsFault → Text
  | .noSecretsDirectory => "secrets_dir must reference a directory, not a file"
  | .options fault => "error parsing CLI: " ++ fault.message
  | .noWords kind =>
    "cli_parse_args must be a list or tuple of strings, received <class '" ++ kind ++ "'>"
  | .optionStart start => "CLI settings source prefix is invalid: " ++ start
  | .unreadable setting origin =>
    "error getting value for field \"" ++ setting ++ "\" from source \"" ++ origin ++ "\""

/-- A failure. -/
inductive Failure
  | raised (kind : FailureKind) (text : Text)
  | unknownLayer (name : Text)
  | duplicateLayer (name : Text)
  /-- A layer placed relative to itself. -/
  | selfAnchor (name : Text)
  /-- A layer whose keys cannot be listed or read. -/
  | unlistable (layer reason : Text)
  | configFile (path : Text) (problem : FileProblem)
  | missingKey (key : Value)
  | incomparable (reason : Text)
  /-- A walk through values that contain themselves, which would never end, or are just as deep. -/
  | endless
  /-- A value that contains itself and was to be written in full. -/
  | circular
  | undecodable (fault : Text.Utf8.Fault)
  /-- A text that was to be printed, or a path, with surrogates that have no bytes. -/
  | unwritable (surrogates : Text.Utf8.Surrogates)
  /-- A whole number with more digits than are written. -/
  | longNumber
  | scalar (problem : ScalarProblem)
  /-- A word that is no truth value, tagged as one. -/
  | notTruthValue (word : Text)
  | emptyNumber
  | notTimestamp
  | system (code : SystemCode) (path : Text)
  | nulInPath
  | misuse (m : Misuse)
  /--
  Calls inside one another for which the stack has no room.  Where values are written, the message
  goes on with what the calls were for, which is left out here.
  -/
  | tooDeep
  | settings (fault : SettingsFault)
  /-- Words that ask the process to end with a status. -/
  | exit (status : Nat)
  /-- A path below the home of a user who has none. -/
  | noHome
  /-- A kept snapshot that there is none of. -/
  | noSnapshot
  /-- A refresh started within another one. -/
  | refreshInRefresh

namespace Failure

/-- Whether the failure is ordinary, that is, no interruption. -/
def isOrdinary : Failure → Bool
  | .raised .interrupt _ => false
  | _ => true

/-- Whether the failure says that a key is absent. -/
def isMissingKey : Failure → Bool
  | .raised .key _ | .missingKey _ => true
  | _ => false

/-- The bytes that a decoding fault concerns. -/
def undecodableRange (fault : Text.Utf8.Fault) : String :=
  if fault.length ≤ 1 then
    "byte 0x" ++ Text.hexText 2 fault.byte.toNat ++ " in position " ++ toString fault.position
  else
    "bytes in position " ++ toString fault.position ++ "-" ++
      toString (fault.position + fault.length - 1)

def undecodableReason : Text.Utf8.Cause → String
  | .invalidStart => "invalid start byte"
  | .invalidContinuation => "invalid continuation byte"
  | .unexpectedEnd => "unexpected end of data"

/-- The surrogates that a failure of writing concerns. -/
def unwritableRange (s : Text.Utf8.Surrogates) : String :=
  if s.length ≤ 1 then
    "character '" ++ Text.numberEscape s.number ++ "' in position " ++ toString s.position
  else
    "characters in position " ++ toString s.position ++ "-" ++
      toString (s.position + s.length - 1)

/-- The message of a failure. -/
def message : Failure → Text
  | .raised .key text => Text.quoted text
  | .raised _ text => text
  | .unknownLayer name => "No layer named " ++ Text.quoted name
  | .duplicateLayer name => "Layer " ++ Text.quoted name ++ " is already present"
  | .selfAnchor name => "Layer " ++ Text.quoted name ++ " cannot be positioned relative to itself"
  | .unlistable layer reason => "Cannot enumerate layer " ++ Text.quoted layer ++ ": " ++ reason
  | .configFile path problem => "Error in config file " ++ path ++ ": " ++ problem.message
  | .missingKey key => key.shown
  | .incomparable reason => reason
  | .endless => "maximum recursion depth exceeded in comparison"
  | .circular => "Circular reference detected"
  | .undecodable fault =>
    "'utf-8' codec can't decode " ++ undecodableRange fault ++ ": " ++
      undecodableReason fault.cause
  | .unwritable s =>
    "'utf-8' codec can't encode " ++ unwritableRange s ++ ": surrogates not allowed"
  | .longNumber =>
    "Exceeds the limit (4300 digits) for integer string conversion; " ++
      "use sys.set_int_max_str_digits() to increase the limit"
  | .scalar problem => problem.message
  | .notTruthValue word => word.quoted
  | .emptyNumber => "string index out of range"
  | .notTimestamp => "'NoneType' object has no attribute 'groupdict'"
  | .system code path => code.message path
  | .nulInPath => "embedded null byte"
  | .misuse m => m.message
  | .tooDeep => "maximum recursion depth exceeded"
  | .settings fault => fault.message
  | .exit status => toString status
  | .noHome => "Could not determine home directory."
  | .noSnapshot => "list index out of range"
  | .refreshInRefresh => "a refresh is already under way"

end Failure

end LiveConfig
