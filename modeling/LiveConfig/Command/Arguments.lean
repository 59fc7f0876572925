import LiveConfig.Text.Basic

/-!
# Command-line arguments

Options are known by long names, which start with two hyphens, and by short ones of one letter.
A value follows its option, or is joined to a long name by an equals sign and to a short one
directly; short options without values can be joined to each other.  Two hyphens end the
options.  `parseArguments` fails on an unknown option, a missing value and a superfluous one.
-/

namespace LiveConfig

/-- An option that a command knows. -/
structure CommandOption where
  /-- The name without hyphens. -/
  long : String
  short : Option Char
  takesValue : Bool

/-- An option that was given. -/
structure GivenOption where
  name : String
  value : Text
  deriving DecidableEq

/-- The options that were given, in order, and the other arguments. -/
structure Arguments where
  options : List GivenOption
  others : List Text

namespace Arguments

/-- Adds another argument in front. -/
def withOther (arg : Text) (a : Arguments) : Arguments :=
  { a with others := arg :: a.others }

/-- The values given for an option, in order. -/
def valuesOf (a : Arguments) (name : String) : List Text :=
  (a.options.filter fun o => o.name == name).map GivenOption.value

def has (a : Arguments) (name : String) : Bool :=
  a.options.any fun o => o.name == name

end Arguments

/-- What an argument that starts with a hyphen gives, and the arguments after it. -/
structure OptionStep where
  given : List GivenOption
  rest : List Text

/-- The letters of joined short options. -/
def shortOptions? (known : List CommandOption) :
    List CodePoint → List Text → Option OptionStep
  | [], rest => some ⟨[], rest⟩
  | p :: ps, rest => do
    let option ← known.find? fun o => o.short.isSome && o.short == p.char?
    if option.takesValue then
      if ps.isEmpty then
        match rest with
        | [] => none
        | value :: rest => some ⟨[⟨option.long, value⟩], rest⟩
      else some ⟨[⟨option.long, ⟨ps⟩⟩], rest⟩
    else
      let step ← shortOptions? known ps rest
      some { step with given := ⟨option.long, ""⟩ :: step.given }

/-- A long option, with a value joined to it or not. -/
def longOption? (option : CommandOption) (joined : Option Text) (rest : List Text) :
    Option OptionStep :=
  if option.takesValue then
    match joined, rest with
    | some value, rest => some ⟨[⟨option.long, value⟩], rest⟩
    | none, value :: rest => some ⟨[⟨option.long, value⟩], rest⟩
    | none, [] => none
  else if joined.isSome then none
  else some ⟨[⟨option.long, ""⟩], rest⟩

/-- An argument that starts with a hyphen. -/
def optionStep? (known : List CommandOption) (arg : Text) (rest : List Text) :
    Option OptionStep :=
  let name : Text := ⟨arg.points.takeWhile (· != .char '=')⟩
  let joined : Option Text :=
    match arg.points.dropWhile (· != .char '=') with
    | [] => none
    | _ :: value => some ⟨value⟩
  match known.find? fun o => Text.ofString ("--" ++ o.long) == name with
  | some option => longOption? option joined rest
  | none =>
    match arg.points with
    | .char '-' :: .char '-' :: _ => none
    | points => shortOptions? known (points.drop 1) rest

/-- Whether an argument starts with a hyphen and says more. -/
def startsOption (arg : Text) : Bool :=
  match arg.points with
  | .char '-' :: _ :: _ => true
  | _ => false

/--
Reads arguments, each step taking at least one.  Options may stand behind other arguments only
if they may be mixed with them.
-/
def parseWithin (known : List CommandOption) (mixed : Bool) :
    Nat → List Text → Option Arguments
  | 0, rest => some ⟨[], rest⟩
  | _ + 1, [] => some ⟨[], []⟩
  | n + 1, arg :: rest =>
    if arg = "--" then some ⟨[], rest⟩
    else if startsOption arg then do
      let step ← optionStep? known arg rest
      let a ← parseWithin known mixed n step.rest
      some { a with options := step.given ++ a.options }
    else if mixed then (parseWithin known mixed n rest).map (Arguments.withOther arg)
    else some ⟨[], arg :: rest⟩

/-- Reads the arguments of a command. -/
def parseArguments (known : List CommandOption) (mixed : Bool) (args : List Text) :
    Option Arguments :=
  parseWithin known mixed args.length args

end LiveConfig
