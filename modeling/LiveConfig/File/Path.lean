import LiveConfig.Text.Blank
import LiveConfig.Text.Quoted

/-!
# Paths

A path is a root, which is empty for a relative path, and the names that follow it.  Slashes at
the end, repeated slashes and single dots are no names; two dots are, as what they lead to
depends on the directories.  Exactly two slashes at the start are a root of their own.
-/

namespace LiveConfig

/--
Names with one more behind them.  Two dots take the name before them back; where there is none,
they stay, unless the names follow a root.
-/
def followName {α : Type} [DecidableEq α] (dots : α) (isRooted : Bool) (names : List α)
    (name : α) : List α :=
  if name ≠ dots then names ++ [name]
  else if !names.all (· == dots) then names.dropLast
  else if isRooted then names
  else names ++ [dots]

/-- The path of a file or a directory. -/
structure FilePath where
  root : String
  parts : List Text
  deriving DecidableEq, Inhabited

namespace FilePath

/-- The root that some slashes at the start stand for. -/
def rootOf : Nat → String
  | 0 => ""
  | 2 => "//"
  | _ => "/"

/-- The path of a text. -/
def ofText (text : Text) : FilePath :=
  let slashes := text.points.takeWhile (· == .char '/')
  let parts := (Text.split '/' text).filter fun part => !part.isEmpty && part != Text.ofString "."
  ⟨rootOf slashes.length, parts⟩

/-- A path with another one appended; one with a root replaces the first. -/
def join (base path : FilePath) : FilePath :=
  if path.root.isEmpty then ⟨base.root, base.parts ++ path.parts⟩ else path

/-- The path as text; one without root and names is the dot. -/
def text (path : FilePath) : Text :=
  if path.root.isEmpty && path.parts.isEmpty then "."
  else path.root ++ Text.joined "/" path.parts

/-- Whether a text names a directory by its end: a slash, or a dot behind one. -/
def namesDirectory (text : Text) : Bool :=
  match text.points.reverse with
  | .char '/' :: _ | .char '.' :: .char '/' :: _ => true
  | _ => false

/-- The path with two dots taken back together with the name before them, where there is one. -/
def withoutDots (path : FilePath) : FilePath :=
  ⟨path.root, path.parts.foldl (followName ".." (!path.root.isEmpty)) []⟩

/-- The directory around a path. -/
def parent (path : FilePath) : FilePath :=
  ⟨path.root, path.parts.dropLast⟩

/-- The directory of a user's files, which slashes at its end say nothing about. -/
def homeOf (text : Text) : FilePath :=
  match text.points.reverse.dropWhile (· == .char '/') with
  | [] => ⟨"/", []⟩
  | points => .ofText ⟨points.reverse⟩

/--
The path with a home in place of a tilde at its start.  There is no such path if a user is named
behind the tilde, or if the home starts with a tilde itself.
-/
def withHome? (home : Text) (path : FilePath) : Option FilePath :=
  let startsWithTilde (t : Text) : Bool := t.points.head? == some (.char '~')
  match path.root.isEmpty, path.parts with
  | true, name :: names =>
    if !startsWithTilde name then some path
    else if name = "~" ∧ !startsWithTilde home then some ((homeOf home).join ⟨"", names⟩)
    else none
  | _, _ => some path

/-- The path as shown in log records. -/
def shown (path : FilePath) : String :=
  "PosixPath(" ++ Text.quoted path.text ++ ")"

end FilePath

/-- Paths as shown in log records. -/
def shownPaths (paths : List FilePath) : String :=
  Text.bracketed (paths.map FilePath.shown)

end LiveConfig
