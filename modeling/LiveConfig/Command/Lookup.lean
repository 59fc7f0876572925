import LiveConfig.Command.Basic

/-!
# The paths that a run looks at

A run is a function of the files, so these must be known before it.  `pathsOf` lists the paths
that a call can look at, as far as the files known so far tell; files that are read may name
further directories.
-/

namespace LiveConfig.Command

/-- The paths searched for configuration files in an environment. -/
def searchedPaths (source : FileSource) (env : Environment) : List FilePath :=
  match source.resolveLocations env, source.resolveName env with
  | .ok locations, .ok name =>
    (searchOrder locations name env.effectiveProfiles).flatMap fun (stem, location) =>
      pathsOfStem stem location
  | _, _ => []

/-- The paths searched by settings, before and after the boot. -/
def settingsPaths (s : Settings) (i : Invocation) : List FilePath :=
  let bare :=
    match s.bareEnvironment i.vars with
    | .ok env => searchedPaths s.source env
    | .error _ => []
  let (built, _) := (s.buildEnvironment i.vars).run (Desk.ofFiles i.files)
  match built with
  | .ok env => bare ++ searchedPaths s.source env
  | .error _ => bare

/-- All paths that a call can look at. -/
def pathsOf (i : Invocation) : List FilePath :=
  let given := i.args.map FilePath.ofText
  match parseArguments mainOptions false i.args with
  | none => []
  | some a =>
    let directories := (a.valuesOf "location").map FilePath.ofText
    match Settings.make (overriding a) [.ofEnvironment {} i.vars] with
    | .ok (.ok s) => given ++ directories ++ settingsPaths s i
    | _ => given ++ directories

end LiveConfig.Command
