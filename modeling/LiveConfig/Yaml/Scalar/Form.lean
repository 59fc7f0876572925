import LiveConfig.Number.Read
import LiveConfig.Yaml.Scalar.Timestamp

/-!
# What a plain scalar means

A plain scalar without a tag is a truth value, a number, null, a moment, or one of the marks `<<`
and `=`, if it has the form of one; else it is a text.  `Tag.ofText` decides.  One line feed at
the end does not change the form.
-/

namespace LiveConfig.Yaml

/-- The meaning of a node. -/
inductive Tag
  | null
  | bool
  | int
  | float
  | binary
  | timestamp
  | omap
  | pairs
  | set
  | str
  | seq
  | map
  /-- The key of entries to be merged. -/
  | merge
  /-- The key of the value that stands for a whole mapping. -/
  | value
  | unknown (name : String)
  deriving DecidableEq

namespace Tag

/-- What the names of known tags start with. -/
def space : String := "tag:yaml.org,2002:"

/-- The known tags by name. -/
def known : List (String × Tag) :=
  [("null", null), ("bool", bool), ("int", int), ("float", float), ("binary", binary),
    ("timestamp", timestamp), ("omap", omap), ("pairs", pairs), ("set", set), ("str", str),
    ("seq", seq), ("map", map), ("merge", merge), ("value", value)]

/-- The tag of a full name. -/
def ofName (name : String) : Tag :=
  match known.find? fun entry => space ++ entry.1 == name with
  | some (_, tag) => tag
  | none => unknown name

end Tag

namespace Form

/-- The words for truth values. -/
def boolWords : List String :=
  ["yes", "Yes", "YES", "no", "No", "NO", "true", "True", "TRUE", "false", "False", "FALSE",
    "on", "On", "ON", "off", "Off", "OFF"]

def nullWords : List String :=
  ["~", "null", "Null", "NULL"]

/-- Digits and underscores. -/
def isSpaced (p : Char → Bool) (c : Char) : Bool :=
  p c || c == '_'

/-- Whether all of some characters, at least one, are in a class. -/
def allOf (p : Char → Bool) (cs : List Char) : Bool :=
  !cs.isEmpty && cs.all p

/-- Whether a digit comes first and only digits and underscores follow. -/
def isSpacedNumber : List Char → Bool
  | [] => false
  | c :: cs => c.isDigit && cs.all (isSpaced Char.isDigit)

/-- Whether some characters are a number below sixty of at most two digits. -/
def isSixtieth : List Char → Bool
  | [c] => c.isDigit
  | [c, d] => '0' ≤ c && c ≤ '5' && d.isDigit
  | _ => false

/-- Whether a number in base sixty, its first part apart, is written by some parts. -/
def areSixtieths (parts : List (List Char)) : Bool :=
  !parts.isEmpty && parts.all isSixtieth

/-- Whether some characters are an exponent with a sign, or none. -/
def isExponent : List Char → Bool
  | [] => true
  | e :: sign :: digits =>
    (e == 'e' || e == 'E') && (sign == '+' || sign == '-') && allOf Char.isDigit digits
  | _ => false

/-- Whether digits and underscores and then an exponent or nothing are written. -/
def isFraction (cs : List Char) : Bool :=
  isExponent (cs.dropWhile (isSpaced Char.isDigit))

/-- A whole number without its sign: binary, octal, decimal, hexadecimal or in base sixty. -/
def isUnsignedInt : List Char → Bool
  | ['0'] => true
  | '0' :: 'b' :: cs => allOf (isSpaced fun c => c == '0' || c == '1') cs
  | '0' :: 'x' :: cs => allOf (isSpaced fun c => (hexValue? c).isSome) cs
  | '0' :: cs => allOf (isSpaced fun c => '0' ≤ c && c ≤ '7') cs
  | cs =>
    match Text.partsAt ':' cs with
    | [] => false
    | first :: parts => isSpacedNumber first && (parts.isEmpty || areSixtieths parts)

def isInt (cs : List Char) : Bool :=
  isUnsignedInt (Double.takeSign cs).2

/-- A number with a point, without its sign; a point at the start goes without sign. -/
def isUnsignedFloat (signed : Bool) (cs : List Char) : Bool :=
  match cs with
  | '.' :: c :: rest =>
    let word := String.ofList (c :: rest)
    ["inf", "Inf", "INF"].contains word ||
      (!signed && (["nan", "NaN", "NAN"].contains word || (c.isDigit && isFraction rest)))
  | _ =>
    let whole := cs.takeWhile (· != '.')
    match cs.dropWhile (· != '.') with
    | [] => false
    | _ :: fraction =>
      match Text.partsAt ':' whole with
      | [] => false
      | [first] => isSpacedNumber first && isFraction fraction
      | first :: parts =>
        isSpacedNumber first && areSixtieths parts && fraction.all (isSpaced Char.isDigit)

def isFloat (cs : List Char) : Bool :=
  let rest := (Double.takeSign cs).2
  isUnsignedFloat (decide (rest.length < cs.length)) rest

/-- Some characters without the line feed at the end, if there is one. -/
def dropLineFeed (cs : List Char) : List Char :=
  if cs.getLast? == some '\n' then cs.dropLast else cs

end Form

/-- The meaning of the characters of a plain scalar without a tag. -/
def Tag.ofPlain (text : List Char) : Tag :=
  let cs := Form.dropLineFeed text
  let word := String.ofList cs
  if text.isEmpty then .null
  else if Form.boolWords.contains word then .bool
  else if Form.isFloat cs then .float
  else if Form.isInt cs then .int
  else if word == "<<" then .merge
  else if Form.nullWords.contains word then .null
  else if Stamp.isTimestamp cs then .timestamp
  else if word == "=" then .value
  else if ["!", "&", "*"].contains word then .unknown (Tag.space ++ "yaml")
  else .str

/-- The meaning of a text like that of a plain scalar; one with surrogates is a text. -/
def Tag.ofText (text : Text) : Tag :=
  match text.chars? with
  | some cs => ofPlain cs
  | none => .str

end LiveConfig.Yaml
