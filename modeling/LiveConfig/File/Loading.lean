import LiveConfig.Environment
import LiveConfig.File.Tree
import LiveConfig.Log
import LiveConfig.Value.Flatten
import LiveConfig.Value.Numbering
import LiveConfig.Yaml.Document

/-!
# Loading configuration files

A configuration file holds a YAML map or nothing.  Its entries are flattened, and they become the
layer named after its path.  Files are found by a base name and profiles in a list of
directories; for each stem and each directory the first ending with a file counts.
-/

namespace LiveConfig

/-- The files that are read, the records logged on the way, and what tells not-a-numbers apart. -/
structure Desk where
  files : FileTree
  log : List LogRecord
  /-- The number of the next not-a-number that a document makes. -/
  nextNan : Nat

/-- Steps that read files and log; both are kept when a step fails. -/
abbrev Loading := ExceptT Failure (StateM Desk)

/-- The desk with some files, before anything is read. -/
def Desk.ofFiles (files : FileTree) : Desk :=
  ⟨files, [], 1⟩

namespace Loading

def ofExcept {α : Type} (x : Except Failure α) : Loading α :=
  ExceptT.mk (pure x)

def record (level : LogLevel) (channel : LogChannel) (text : Text) : Loading Unit :=
  modify fun d => { d with log := d.log ++ [⟨level, channel, text⟩] }

end Loading

/-- Characters with every line end as a line feed. -/
def unifyLineEnds : List Char → List Char
  | '\r' :: '\n' :: cs => '\n' :: unifyLineEnds cs
  | '\r' :: cs => '\n' :: unifyLineEnds cs
  | c :: cs => c :: unifyLineEnds cs
  | [] => []

/-- The flat entries of the value of the document at a path. -/
def entriesOfValue (path : FilePath) : Value → Except Failure Entries
  | .null => .ok Table.empty
  | .map entries => Value.flattenOnStack entries
  | other => .error (.configFile path.text (.notMap other.kindName))

/-- The flat entries of the document at a path, and how many numbers it has for its values. -/
def entriesOfDocument (path : FilePath) (text : List Char) : Except Failure (Entries × Nat) :=
  match Yaml.load text with
  | .ok (v, count) => (entriesOfValue path v).map fun entries => (entries, count)
  | .error (.malformed _) => .error (.configFile path.text .malformed)
  | .error (.impossible why) => .error why.failure
  | .error (.endless kind) =>
    if kind = (Value.map []).kindName then .error .endless
    else .error (.configFile path.text (.notMap kind))

/-- The flat entries of the file with the given bytes, and how many numbers it has for its values. -/
def entriesOfBytes (path : FilePath) (data : List UInt8) : Except Failure (Entries × Nat) :=
  match Text.Utf8.decode data with
  | .error fault => .error (.undecodable fault)
  | .ok text => entriesOfDocument path (unifyLineEnds text)

/-- What reading a path means for the one who loads it. -/
def readingOutcome (path : FilePath) : FileTree.Reading → Except Failure (List UInt8)
  | .data data => .ok data
  | .unusable failure => .error failure
  | .problem .denied => .error (.configFile path.text (.denied path.text))
  | .problem code => .error (.configFile path.text (.unreadable code path.text))

/-- Loads the file at a path, and numbers its values from the next number on. -/
def loadFile (path : FilePath) : Loading Entries := do
  let d ← get
  let (reading, files) := d.files.read path
  set { d with files := files }
  let (entries, count) ← Loading.ofExcept (readingOutcome path reading >>= entriesOfBytes path)
  modify fun d => { d with nextNan := d.nextNan + count }
  return entries.mapValues (Value.numberFrom d.nextNan)

/-- The name of the layer of a file. -/
def fileLayerName (path : FilePath) : Text :=
  Names.fileLayer ++ ": [" ++ path.text ++ "]"

/-- Loads files as layers. -/
def loadLayers : List FilePath → Loading (List Layer)
  | [] => return []
  | path :: rest => do
    let entries ← loadFile path
    return Layer.ofEntries (fileLayerName path) entries :: (← loadLayers rest)

/-! ## Finding files -/

/-- The first path of a list with a file. -/
def firstFile? (files : FileTree) : List FilePath → Except Failure (Option FilePath)
  | [] => .ok none
  | path :: rest => do
    if ← files.isFile path then return some path else firstFile? files rest

/-- The paths of the files of a stem in a directory. -/
def pathsOfStem (stem : Text) (location : FilePath) : List FilePath :=
  Names.fileEndings.map fun (ending : String) => location.join (.ofText (stem ++ ending))

/-- The file of a stem in a directory. -/
def fileOfStem? (files : FileTree) (stem : Text) (location : FilePath) :
    Except Failure (Option FilePath) :=
  firstFile? files (pathsOfStem stem location)

/-- The stems of file names, of highest precedence first: the later profiles, then the bare name. -/
def stems (name : Text) (profiles : List Text) : List Text :=
  (profiles.reverse.map fun profile => name ++ "-" ++ profile) ++ [name]

/-- All pairs of a stem and a directory, of highest precedence first. -/
def searchOrder (locations : List FilePath) (name : Text) (profiles : List Text) :
    List (Text × FilePath) :=
  (stems name profiles).flatMap fun stem => locations.reverse.map fun location => (stem, location)

/-- The files chosen for some pairs, each once, after those already found. -/
def findFrom (files : FileTree) (found : List FilePath) :
    List (Text × FilePath) → Except Failure (List FilePath)
  | [] => .ok found
  | (stem, location) :: rest => do
    match ← fileOfStem? files stem location with
    | some path =>
      findFrom files (if found.contains path then found else found ++ [path]) rest
    | none => findFrom files found rest

/-- The existing configuration files, of highest precedence first. -/
def findConfigFiles (files : FileTree) (locations : List FilePath) (name : Text)
    (profiles : List Text) : Except Failure (List FilePath) :=
  findFrom files [] (searchOrder locations name profiles)

end LiveConfig
