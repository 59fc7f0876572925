import LiveConfig.Command.Lookup

/-!
# The program

Reads the environment variables and the files that a call needs, runs it and prints what it
leads to.
-/

namespace LiveConfig.Program

/-- The environment variables that are looked at. -/
def variableNames : List String :=
  ["REKINDLE_CONFIG_NAME", "REKINDLE_CONFIG_LOCATIONS", "REKINDLE_ACTIVE_PROFILES",
    "REKINDLE_DEFAULT_PROFILES", "REKINDLE_EXTRA_STANDARD_LAYERS", "REKINDLE_LOG_LEVEL",
    Names.configNameKey, Names.configLocationKey]

/-- The variables that are set. -/
def readVariables : IO (List (Text × Text)) :=
  variableNames.filterMapM fun name => do
    return (← IO.getEnv name).map fun value => (Text.ofString name, Text.ofString value)

/-- What is at a path, if anything. -/
def readContent (path : FilePath) : IO (Option FileContent) :=
  try
    let data ← IO.FS.readBinFile path.text.plain
    return some ⟨.file data.toList, none⟩
  catch
    | .permissionDenied .. => return some ⟨.file [], some 0⟩
    | .inappropriateType .. => return some ⟨.directory, none⟩
    | _ => return none

/-- Adds what is at some paths to a tree. -/
def readPaths (t : FileTree) : List FilePath → IO FileTree
  | [] => return t
  | path :: rest => do
    match path.bytes? with
    | none => readPaths t rest
    | some bytes =>
      if bytes.names.contains BytePath.dots || (t.node? bytes).isSome then readPaths t rest
      else
        match ← readContent path with
        | some content => readPaths (t.put path content) rest
        | none => readPaths t rest

/-- Reads what a call looks at, some times over, as files may name further directories. -/
def readFiles : Nat → Command.Invocation → IO Command.Invocation
  | 0, i => return i
  | n + 1, i => do
    let files ← readPaths i.files (Command.pathsOf i)
    readFiles n { i with files := files }

end LiveConfig.Program

/-- Runs the program. -/
def main (args : List String) : IO UInt32 := do
  let vars ← LiveConfig.Program.readVariables
  let i ← LiveConfig.Program.readFiles 3 ⟨args.map .ofString, vars, LiveConfig.FileTree.empty⟩
  let run := LiveConfig.Command.run i
  IO.print run.output
  IO.eprint run.errorOutput
  return UInt32.ofNat run.status
