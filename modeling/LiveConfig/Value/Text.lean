import LiveConfig.Number.Shortest
import LiveConfig.Text.Quoted
import LiveConfig.Value.Basic

/-!
# Values as text

`Value.shown` writes a value so that its kind can be seen: texts are quoted and dates name their
fields.  `Value.display` is the plain form, which leaves a text as it is and writes dates with
hyphens; parts of a list or a map are always written in the first form.  Where a collection comes
up again inside itself, dots stand between its brackets.

Whole numbers with more than 4300 digits are not written, nor is any value that holds one:
`Value.isWritable` tells.
-/

namespace LiveConfig.Value

/-- Shown items between braces. -/
def braced (items : List String) : String :=
  "\x7b" ++ ", ".intercalate items ++ "\x7d"

/-- Shown items between parentheses; a single one is followed by a comma. -/
def parenthesized : List String → String
  | [item] => "(" ++ item ++ ",)"
  | items => "(" ++ ", ".intercalate items ++ ")"

mutual

/-- A value written so that its kind can be seen. -/
def shown : Value → String
  | .null => "None"
  | .bool b => if b then "True" else "False"
  | .int n => toString n
  | .float x => x.text
  | .str s => Text.quoted s
  | .list items => Text.bracketed (shownAll items)
  | .tuple items => parenthesized (shownAll items)
  | .map entries => braced (shownEntries entries)
  | .set members =>
    if members.isEmpty then "set()" else braced (shownAll members)
  | .bytes data => Text.quotedBytes data
  | .date d => d.fieldText
  | .moment m => m.fieldText
  | .removed => "<REMOVED>"
  | .flawed _ _ => "<flawed>"
  | .again .list _ _ => "[...]"
  | .again .tuple _ _ => "(...)"
  | .again .map _ _ => braced ["..."]

def shownAll : List Value → List String
  | [] => []
  | x :: xs => shown x :: shownAll xs

def shownEntries : List (Value × Value) → List String
  | [] => []
  | (k, x) :: es => (shown k ++ ": " ++ shown x) :: shownEntries es

end

/-- A value in its plain form. -/
def display : Value → Text
  | .str s => s
  | .date d => d.isoText
  | .moment m => m.isoText " "
  | v => v.shown

/-! ## What can be written -/

/-- The greatest number of decimal digits of a whole number that are read or written. -/
def maxDecimalDigits : Nat := 4300

mutual

/-- Whether no whole number in a value has too many digits to be written. -/
def isWritable : Value → Bool
  | .int n => decide (n.natAbs < tenTo maxDecimalDigits)
  | .list items | .tuple items | .set items => areWritable items
  | .map entries => areEntriesWritable entries
  | _ => true

def areWritable : List Value → Bool
  | [] => true
  | x :: xs => isWritable x && areWritable xs

def areEntriesWritable : List (Value × Value) → Bool
  | [] => true
  | (k, x) :: es => isWritable k && isWritable x && areEntriesWritable es

end

end LiveConfig.Value
