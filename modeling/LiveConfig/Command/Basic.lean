import LiveConfig.Command.Arguments
import LiveConfig.Report.Json
import LiveConfig.Report.Lines
import LiveConfig.Settings.Basic

/-!
# The command line

Three commands work on the configuration files of the working directory: `show` prints the
effective configuration, `diff` compares two files, and `refresh` boots, refreshes once and
lists the keys that changed.  The options before the command override settings.
-/

namespace LiveConfig.Command

/-- A call of the program. -/
structure Invocation where
  args : List Text
  vars : List (Text × Text)
  files : FileTree

/-- How a run ends. -/
inductive Ending
  | success
  /-- Arguments that no command takes. -/
  | usage
  | invalidSettings (problems : List SettingsProblem)
  /-- A failure that is reported to the user. -/
  | reported (failure : Failure)
  /-- Any other failure. -/
  | unhandled (failure : Failure)

/-- A run: what it printed, the log lines it wrote, and its end. -/
structure Run where
  output : String
  log : List Text
  ending : Ending

namespace Run

/-- The status with which the program exits. -/
def status (r : Run) : Nat :=
  match r.ending with
  | .success => 0
  | .usage => 2
  | _ => 1

/-- A run that fails before it prints or logs anything. -/
def refused (ending : Ending) : Run :=
  ⟨"", [], ending⟩

end Run

/-! ## Texts -/

def versionText : String := "rekindle, version 0.1.0\n"

def usageText : String :=
  "Usage: rekindle [OPTIONS] COMMAND [ARGS]...\n"

/-- Lines, each with its end. -/
def linesText (lines : List Text) : Text :=
  Text.joined "" (lines.map fun line => line ++ "\n")

/-- The last lines on the error stream. -/
def Ending.text : Ending → Text
  | .success => ""
  | .usage => usageText
  | .invalidSettings problems =>
    linesText ("Error: Invalid settings:" ::
      problems.map fun p => p.location ++ ": " ++ p.cause.message)
  | .reported failure | .unhandled failure => Report.errorLine failure

/-- What a run writes to the error stream, with escapes for what cannot be written. -/
def Run.errorOutput (r : Run) : String :=
  Report.withLineFeeds (linesText r.log ++ r.ending.text).escaped

/-- A value as printed beside its key. -/
def valueText : Value → Line
  | .null => .ok "null"
  | .bool b => .ok (if b then "true" else "false")
  | v => v.inFull

/-- A key with its value. -/
def assignment (key value : Value) : Line := do
  let name ← key.written
  let text ← valueText value
  return name ++ " = " ++ text

/-- Entries in the order of their keys. -/
def sortedEntries (entries : List (Value × Value)) : List (Value × Value) :=
  entries.mergeSort fun a b => !b.1.display.isBefore a.1.display

/-- The lines of a snapshot. -/
def snapshotLines (t : Entries) : List Line :=
  if t.isEmpty then [.ok "No configuration found."]
  else (sortedEntries t.entries).map fun e => assignment e.1 e.2

/-- A line with some text in front. -/
def marked (mark : Text) (line : Line) : Line :=
  line.map (mark ++ ·)

/-- Whether a value is the mark of a key that is gone. -/
def isRemoved : Value → Bool
  | .removed => true
  | _ => false

/-- The line of a key that has changed since some entries. -/
def changeLine (before : Entries) (key value : Value) : Line :=
  if isRemoved value then marked "- " key.written
  else if before.contains key then marked "~ " (assignment key value)
  else marked "+ " (assignment key value)

def noChanges : Line := .ok "No changes."

/-- The lines of the changes since some entries. -/
def changeLines (before changed : Entries) : List Line :=
  if changed.isEmpty then [noChanges]
  else (sortedEntries changed.entries).map fun e => changeLine before e.1 e.2

/-- The changes since some entries as one map with a group for each kind, chosen one by one. -/
def changeGroups (before changed : Entries) : Value :=
  let added := changed.entries.filter fun e => !before.contains e.1
  let modified := changed.entries.filter fun e => before.contains e.1 && !isRemoved e.2
  let removed := changed.entries.filter fun e => isRemoved e.2
  .map [(.str "added", .map added), (.str "changed", .map modified),
    (.str "removed", .list (Value.sortedKeys (removed.map Prod.fst)))]

/-! ## Commands -/

/-- Whether a failure is one of loading a file. -/
def isFileFailure : Failure → Bool
  | .configFile _ _ => true
  | _ => false

/-- Whether a failure is one of loading a file or of the layers. -/
def isLayerFailure : Failure → Bool
  | .configFile _ _ | .unknownLayer _ | .duplicateLayer _ | .selfAnchor _ | .unlistable _ _ => true
  | _ => false

/-- A command that has run: what it printed, how it ended, and the records it logged. -/
structure Work where
  output : String
  ending : Ending
  log : List LogRecord

namespace Work

/-- The work of a command that failed before it printed anything. -/
def failed (ending : Ending) (log : List LogRecord) : Work :=
  ⟨"", ending, log⟩

/-- The work of a command that prints lines in the end. -/
def printing (lines : List Line) (log : List LogRecord) : Work :=
  match Report.printAll lines with
  | (output, none) => ⟨output, .success, log⟩
  | (output, some failure) => ⟨output, .unhandled failure, log⟩

/-- The work of a command that prints a value as JSON in the end. -/
def printingJson (v : Value) (log : List LogRecord) : Work :=
  match Json.text v with
  | .ok text => ⟨text ++ "\n", .success, log⟩
  | .error failure => failed (.unhandled failure) log

end Work

/-- The end that a failure leads to. -/
def endingOf (isReported : Failure → Bool) (failure : Failure) : Ending :=
  if isReported failure then .reported failure else .unhandled failure

/-- Prints the effective configuration. -/
def runShow (s : Settings) (vars : List (Text × Text)) (files : FileTree)
    (asJson : Bool) : Work :=
  let (built, d) := (s.buildEnvironment vars).run (Desk.ofFiles files)
  match built with
  | .error failure => Work.failed (endingOf isFileFailure failure) d.log
  | .ok env =>
    let x := extract s.standardLayers env.stack.layers
    let log := d.log ++ x.log
    match x.outcome with
    | .error failure => Work.failed (.unhandled failure) log
    | .ok t =>
      if asJson then Work.printingJson (.map t.entries) log
      else Work.printing (snapshotLines t) log

/-- Loads two files and compares their entries; gives the first ones along with the changes. -/
def loadChanges (old new : FilePath) : Loading (Entries × Except Failure Entries) := do
  let before ← loadFile old
  let after ← loadFile new
  return (before, changes before after)

/-- Prints the keys that differ between two files. -/
def runDiff (old new : FilePath) (files : FileTree) (asJson : Bool) : Work :=
  let (loaded, d) := (loadChanges old new).run (Desk.ofFiles files)
  match loaded with
  | .error failure => Work.failed (endingOf isFileFailure failure) d.log
  | .ok (_, .error failure) => Work.failed (.unhandled failure) d.log
  | .ok (before, .ok changed) =>
    if asJson then Work.printingJson (changeGroups before changed) d.log
    else Work.printing (changeLines before changed) d.log

/-- The session of a process that has booted. -/
def sessionOf (env : Environment) (d : Desk) : Session :=
  { (default : Session) with environment := env, files := d.files, nextNan := d.nextNan }

/-- The lines of the keys that a refresh reports. -/
def keyLines (keys : List Value) : List Line :=
  if keys.isEmpty then [noChanges] else (Value.sortedKeys keys).map Value.written

/-- Boots, refreshes once and prints the keys that changed. -/
def runRefresh (s : Settings) (vars : List (Text × Text)) (files : FileTree) : Work :=
  let (built, d) := (s.buildEnvironment vars).run (Desk.ofFiles files)
  match built with
  | .error failure => Work.failed (endingOf isFileFailure failure) d.log
  | .ok env =>
    let refresh := (s.refresher true (.lazy true)).refresh
    let (refreshed, session) := refresh.run (sessionOf env d)
    let log := d.log ++ session.journal.log
    match refreshed with
    | .error failure => Work.failed (endingOf isLayerFailure failure) log
    | .ok keys => Work.printing (keyLines keys) log

/-! ## Dispatch -/

/-- The options before the command. -/
def mainOptions : List CommandOption :=
  [⟨"version", some 'v', false⟩, ⟨"help", some 'h', false⟩,
    ⟨"location", some 'l', true⟩, ⟨"profile", some 'p', true⟩, ⟨"verbose", none, false⟩]

def helpOption : CommandOption := ⟨"help", some 'h', false⟩

def jsonOption : CommandOption := ⟨"json", none, false⟩

/-- A command by its name. -/
inductive CommandName
  | showAll
  | diff
  | refresh
  deriving DecidableEq

def CommandName.ofText? (text : Text) : Option CommandName :=
  match text.plain with
  | "show" => some .showAll
  | "diff" => some .diff
  | "refresh" => some .refresh
  | _ => none

/-- The options of a command. -/
def CommandName.options : CommandName → List CommandOption
  | .showAll | .diff => [jsonOption, helpOption]
  | .refresh => [helpOption]

/--
What is at the path of an argument, or nothing, also if its text is too long for a path; an
argument that cannot be given to the system fails.
-/
def locatedAt (files : FileTree) (text : Text) : Except Ending (Option Located) :=
  match FilePath.unusable? text with
  | some failure => .error (.unhandled failure)
  | none =>
    if text.isEmpty || FileTree.isLongPath text then .ok none
    else
      match files.locate (FilePath.ofText text) with
      | .ok (.file target data) =>
        .ok (if FilePath.namesDirectory text then none else some (.file target data))
      | found => .ok found.toOption

/-- Refuses an argument that names a file where directories are searched. -/
def checkLocation (files : FileTree) (text : Text) : Except Ending Unit := do
  match ← locatedAt files text with
  | some (.file _ _) => throw .usage
  | _ => return ()

/-- The path of an argument that must name a file. -/
def fileArgument (files : FileTree) (text : Text) : Except Ending FilePath := do
  match ← locatedAt files text with
  | some (.file _ _) => return FilePath.ofText text
  | _ => throw .usage

/-- The settings that the options before the command override. -/
def overriding (a : Arguments) : List (String × Value) :=
  let given (setting option : String) : List (String × Value) :=
    match a.valuesOf option with
    | [] => []
    | values => [(setting, .list (values.map Value.str))]
  given "config_locations" "location" ++ given "active_profiles" "profile"

/-- The two files that are to be compared, checked one after the other. -/
def comparedFiles (files : FileTree) : List Text → Except Ending (FilePath × FilePath)
  | [] => .error .usage
  | [old] => do
    let _ ← fileArgument files old
    throw .usage
  | old :: new :: rest => do
    let old ← fileArgument files old
    let new ← fileArgument files new
    if rest.isEmpty then return (old, new) else throw .usage

/-- Runs a command with its own arguments. -/
def runCommand (i : Invocation) (s : Settings) (name : CommandName) (a : Arguments) : Work :=
  if a.has "help" then ⟨usageText, .success, []⟩
  else
    match name with
    | .showAll =>
      if a.others.isEmpty then runShow s i.vars i.files (a.has "json") else Work.failed .usage []
    | .diff =>
      match comparedFiles i.files a.others with
      | .ok (old, new) => runDiff old new i.files (a.has "json")
      | .error ending => Work.failed ending []
    | .refresh =>
      if a.others.isEmpty then runRefresh s i.vars i.files else Work.failed .usage []

/-- The run of a command, with the records that reach a level. -/
def Work.toRun (w : Work) (level : LogLevel) : Run :=
  ⟨w.output, logLines level w.log, w.ending⟩

/-- The first of the options that only print something. -/
def eagerOption? (a : Arguments) : Option String :=
  (a.options.find? fun o => o.name == "version" || o.name == "help").map GivenOption.name

/-- Reads the options before the command, or tells how the run ends before it gets to a command. -/
def readOptions (files : FileTree) (args : List Text) : Except Run Arguments :=
  match parseArguments mainOptions false args with
  | none => .error (Run.refused .usage)
  | some a =>
    match eagerOption? a with
    | some "version" => .error ⟨versionText, [], .success⟩
    | some _ => .error ⟨usageText, [], .success⟩
    | none =>
      match (a.valuesOf "location").forM (checkLocation files) with
      | .error ending => .error (Run.refused ending)
      | .ok () => .ok a

/--
How a run ends that is given no known command.  Two hyphens may have kept options from being
read; these are read once more for those that only print something.
-/
def unknownCommand (files : FileTree) (args : List Text) : Run :=
  match readOptions files args with
  | .error r => r
  | .ok _ => Run.refused .usage

/-- Runs the command after the options before it have been read. -/
def dispatch (i : Invocation) (a : Arguments) : Run :=
  match a.others with
  | [] => Run.refused .usage
  | command :: rest =>
    match CommandName.ofText? command with
    | none => unknownCommand i.files a.others
    | some name =>
      match Settings.make (overriding a) [.ofEnvironment {} i.vars] with
      | .error failure => Run.refused (.unhandled failure)
      | .ok (.error problems) => Run.refused (.invalidSettings problems)
      | .ok (.ok s) =>
        match parseArguments name.options true rest with
        | none => Run.refused .usage
        | some own =>
          (runCommand i s name own).toRun (if a.has "verbose" then .debug else s.recordLevel)

/-- Runs the program. -/
def run (i : Invocation) : Run :=
  match readOptions i.files i.args with
  | .error r => r
  | .ok a => dispatch i a

end LiveConfig.Command
