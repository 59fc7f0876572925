import LiveConfig.Table
import LiveConfig.Text.Blank

/-!
# Files of variables

A file of variables sets one variable with each of its statements, such as `NAME=value`; the word
`export` may stand in front, and a comment behind.  A value in quotes may run over several lines.
A name without an equals sign is set to nothing.  A statement with any other form is passed over,
with the rest of the line in which it goes wrong.

References such as `${NAME}` and `${NAME:-default}` in a value stand for what the file has set so
far, and else for variables that were set before.
-/

namespace LiveConfig

/-- Variables in the order in which they are set; one can be named and have no value. -/
abbrev Variables := List (Text × Option Text)

namespace VariableFile

/-- A part of a statement with the characters behind it, or those at which it goes wrong. -/
abbrev Part (α : Type) := Except (List Char) (α × List Char)

/-- Blanks that do not end a line. -/
def isLineBlank (c : Char) : Bool :=
  Text.isBlank c && c != '\n'

/-- Characters without the blanks before them in their line. -/
def dropLineBlanks (cs : List Char) : List Char :=
  cs.dropWhile isLineBlank

/-- Characters without the blanks at their end. -/
def dropTrailingBlanks (cs : List Char) : List Char :=
  (cs.reverse.dropWhile Text.isBlank).reverse

/-- What follows a line. -/
def nextLine (cs : List Char) : List Char :=
  (cs.dropWhile (· != '\n')).drop 1

/-! ## Names and values -/

/-- What follows the word that may stand in front of a name. -/
def dropExport (cs : List Char) : List Char :=
  match cs with
  | 'e' :: 'x' :: 'p' :: 'o' :: 'r' :: 't' :: c :: rest =>
    if isLineBlank c then dropLineBlanks rest else cs
  | _ => cs

/-- A name, or none before a comment. -/
def name (cs : List Char) : Part (Option String) :=
  match cs with
  | '#' :: _ => .ok (none, cs)
  | '\'' :: rest =>
    match rest.takeWhile (· != '\''), rest.dropWhile (· != '\'') with
    | c :: inner, _ :: behind => .ok (some (String.ofList (c :: inner)), behind)
    | _, _ => .error cs
  | _ =>
    let inName (c : Char) : Bool := c != '=' && c != '#' && !Text.isBlank c
    match cs.takeWhile inName with
    | [] => .error cs
    | inner => .ok (some (String.ofList inner), cs.dropWhile inName)

/--
The characters before the closing quote and those behind it.  A quote behind a backslash closes
only if no other one does.
-/
def untilQuote (quote : Char) (escaped : Bool) : List Char → Option (List Char × List Char)
  | [] => none
  | c :: cs =>
    if c == quote && !escaped then some ([], cs)
    else
      match untilQuote quote (c == '\\') cs with
      | some (inner, behind) => some (c :: inner, behind)
      | none => if c == quote then some ([], cs) else none

/-- What a backslash and a character stand for between single quotes. -/
def singleEscapes : List (Char × Char) :=
  [('\\', '\\'), ('\'', '\'')]

/-- What a backslash and a character stand for between double quotes. -/
def doubleEscapes : List (Char × Char) :=
  [('\\', '\\'), ('\'', '\''), ('"', '"'), ('a', '\x07'), ('b', '\x08'), ('f', '\x0c'),
    ('n', '\n'), ('r', '\r'), ('t', '\t'), ('v', '\x0b')]

/-- Characters with their escapes replaced; other backslashes stay. -/
def unescape (escapes : List (Char × Char)) : List Char → List Char
  | '\\' :: c :: cs =>
    match escapes.lookup c with
    | some d => d :: unescape escapes cs
    | none => '\\' :: unescape escapes (c :: cs)
  | c :: cs => c :: unescape escapes cs
  | [] => []

/-- A value in quotes, from behind the opening one. -/
def quotedValue (quote : Char) (escapes : List (Char × Char)) (cs : List Char) : Part String :=
  match untilQuote quote false cs with
  | some (inner, behind) => .ok (String.ofList (unescape escapes inner), behind)
  | none => .error cs

/-- The characters before a comment, which starts behind a blank. -/
def beforeComment (afterBlank : Bool) : List Char → List Char
  | [] => []
  | c :: cs => if c == '#' && afterBlank then [] else c :: beforeComment (Text.isBlank c) cs

/-- A value without quotes, which ends with the line. -/
def plainValue (cs : List Char) : String :=
  String.ofList (dropTrailingBlanks (beforeComment false (cs.takeWhile (· != '\n'))))

/-- A value, from behind the equals sign. -/
def value (cs : List Char) : Part String :=
  match dropLineBlanks cs with
  | '\'' :: rest => quotedValue '\'' singleEscapes rest
  | '"' :: rest => quotedValue '"' doubleEscapes rest
  | rest => .ok (plainValue rest, rest.dropWhile (· != '\n'))

/-- What follows the end of a statement: nothing more may stand in its line but a comment. -/
def lineEnd (cs : List Char) : Except (List Char) (List Char) :=
  match dropLineBlanks cs with
  | [] => .ok []
  | '\n' :: rest => .ok rest
  | '#' :: rest => .ok (nextLine rest)
  | rest => .error rest

/-! ## Statements -/

/-- What a statement sets: a variable, and its value as it is written. -/
abbrev Assigned := String × Option String

/-- One statement, which may set a variable. -/
def statement (cs : List Char) : Part (Option Assigned) :=
  match name (dropExport cs) with
  | .error cs => .error cs
  | .ok (name, cs) =>
    match dropLineBlanks cs with
    | '=' :: cs =>
      match value cs with
      | .error cs => .error cs
      | .ok (value, cs) => (lineEnd cs).map ((name.map fun name => (name, some value)), ·)
    | cs => (lineEnd cs).map ((name.map fun name => (name, none)), ·)

/-- The statements of a text, given a bound for their number. -/
def statementsWithin : Nat → List Char → List Assigned
  | 0, _ => []
  | n + 1, cs =>
    match cs.dropWhile Text.isBlank with
    | [] => []
    | cs =>
      match statement cs with
      | .ok (some set, rest) => set :: statementsWithin n rest
      | .ok (none, rest) => statementsWithin n rest
      | .error rest => statementsWithin n (nextLine rest)

/-- The statements of a text that set variables. -/
def statements (cs : List Char) : List Assigned :=
  statementsWithin cs.length cs

/-! ## References -/

/-- A reference from behind its opening brace: its name, its default, and what follows. -/
def reference? (cs : List Char) : Option (String × String × List Char) :=
  let inName (c : Char) : Bool := c != '}' && c != ':'
  let name := String.ofList (cs.takeWhile inName)
  match cs.dropWhile inName with
  | '}' :: rest => some (name, "", rest)
  | ':' :: '-' :: rest =>
    match rest.dropWhile (· != '}') with
    | _ :: behind => some (name, String.ofList (rest.takeWhile (· != '}')), behind)
    | [] => none
  | _ => none

/-- Replaces the references among some characters, given a bound for their number. -/
def expandWithin (get? : Text → Option (Option Text)) : Nat → List Char → Text
  | n + 1, '$' :: '{' :: cs =>
    match reference? cs with
    | some (name, default, rest) =>
      ((get? name).getD (some default)).getD "" ++ expandWithin get? n rest
    | none => "$" ++ expandWithin get? n ('{' :: cs)
  | n + 1, c :: cs => Text.ofChars [c] ++ expandWithin get? n cs
  | _, _ => ""

/-- A value with its references replaced; a variable without a value counts as empty. -/
def expand (get? : Text → Option (Option Text)) (value : String) : Text :=
  expandWithin get? value.length value.toList

/-- The variables after one is set. -/
def assigned (earlier : List (Text × Text)) (t : Table Text (Option Text)) (a : Assigned) :
    Table Text (Option Text) :=
  t.insert a.1 (a.2.map (expand fun name => (t.get? name).or ((earlier.lookup name).map some)))

/-- The variables that a text sets, given those set before. -/
def assignments (earlier : List (Text × Text)) (cs : List Char) : Variables :=
  ((statements cs).foldl (assigned earlier) Table.empty).entries

end VariableFile

end LiveConfig
