import LiveConfig.Value.Flatten
import LiveConfig.Value.Order

/-!
# Values as JSON text

Objects and arrays are spread over lines and indented by two blanks; empty ones stay on one
line.  Object keys are sorted.  Characters outside ASCII are escaped by their UTF-16 units, and so
are surrogates.  Dates, binary data and sets are written as texts.
-/

namespace LiveConfig.Json

/-- A UTF-16 unit escaped by its number. -/
def unitEscape (n : Nat) : String :=
  "\\u" ++ Text.hexText 4 n

/-- One character of a JSON text. -/
def escapeChar (c : Char) : String :=
  let n := c.toNat
  if c = '"' then "\\\""
  else if c = '\\' then "\\\\"
  else if c = '\n' then "\\n"
  else if c = '\r' then "\\r"
  else if c = '\t' then "\\t"
  else if n = 8 then "\\b"
  else if n = 12 then "\\f"
  else if 32 ≤ n ∧ n < 127 then c.toString
  else if n < 0x10000 then unitEscape n
  else unitEscape (0xd800 + (n - 0x10000) / 0x400) ++ unitEscape (0xdc00 + (n - 0x10000) % 0x400)

/-- One code point of a JSON text. -/
def escapePoint : CodePoint → String
  | .char c => escapeChar c
  | .surrogate n => unitEscape (CodePoint.surrogate n).number

/-- A text in double quotes. -/
def quoted (t : Text) : String :=
  "\"" ++ String.join (t.points.map escapePoint) ++ "\""

/-- A double; infinities and not-a-number have names. -/
def floatText (x : Double) : String :=
  if x.isNan then "NaN"
  else if x.isInfinite then (if x.negative then "-Infinity" else "Infinity")
  else x.text

/-- A line break and the indentation of a depth. -/
def lineStart (depth : Nat) : String :=
  "\n" ++ String.ofList (List.replicate (2 * depth) ' ')

/-- Items between brackets at a depth, each on a line of its own. -/
def spread (opening closing : String) (depth : Nat) (items : List String) : String :=
  if items.isEmpty then opening ++ closing
  else
    opening ++ lineStart (depth + 1) ++ ("," ++ lineStart (depth + 1)).intercalate items ++
      lineStart depth ++ closing

/-- The text of an object key. -/
def keyText : Value → Except Failure Text
  | .str s => .ok s
  | .float x => .ok (floatText x)
  | .bool b => .ok (if b then "true" else "false")
  | .null => .ok "null"
  | .int n => (Value.int n).written
  | v => .error (.misuse (.badKey v.kindName))

/-! ## Values -/

/-- How many collections inside one another are written: the stack has no room for more. -/
def depthLimit : Nat := 981

/-- Goes into a collection at a depth. -/
def enter (depth : Nat) : Except Failure Unit :=
  if depth < depthLimit then .ok () else .error .tooDeep

/-- Entries in the order of their keys. -/
def sortEntries {α : Type} (entries : List (Value × α)) : Except Failure (List (Value × α)) :=
  (sortBy (fun a b => Value.precedes? a.1 b.1) entries).mapError .misuse

/-- A value written as a text. -/
def quotedForm (v : Value) : Except Failure String :=
  v.written.map quoted

/-- Written entries, sorted and with their keys in front. -/
def writeEntries (entries : List (Value × Except Failure String)) :
    Except Failure (List String) := do
  (← sortEntries entries).mapM fun e => do
    let key ← keyText e.1
    return quoted key ++ ": " ++ (← e.2)

mutual

/-- A value at a depth. -/
def write (depth : Nat) : Value → Except Failure String
  | .null => .ok "null"
  | .bool b => .ok (if b then "true" else "false")
  | .int n => (Value.int n).written.map Text.plain
  | .float x => .ok (floatText x)
  | .str s => .ok (quoted s)
  | .list items | .tuple items => do
    enter depth
    return spread "[" "]" depth (← writeAll (depth + 1) items)
  | .map entries => do
    enter depth
    return spread "\x7b" "\x7d" depth (← writeEntries (writeFields (depth + 1) entries))
  | .again _ _ _ => .error .circular
  | v => quotedForm v

def writeAll (depth : Nat) : List Value → Except Failure (List String)
  | [] => .ok []
  | v :: vs => do
    let first ← write depth v
    return first :: (← writeAll depth vs)

def writeFields (depth : Nat) : List (Value × Value) → List (Value × Except Failure String)
  | [] => []
  | (k, v) :: es => (k, write depth v) :: writeFields depth es

end

/-- A value as JSON text, without line end. -/
def text (v : Value) : Except Failure String :=
  write 0 v

end LiveConfig.Json
