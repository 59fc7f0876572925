import LiveConfig.Yaml.Scalar.Base64
import LiveConfig.Yaml.Scalar.Form
import LiveConfig.Yaml.Scalar.Number

/-!
# Values of scalars

`scalarValue fresh tag text` is the value of a scalar with a tag.  A scalar can carry any tag, so
its text need not have the form that the tag asks for.
-/

namespace LiveConfig.Yaml

/-- The truth value of a word in any letter case. -/
def readBool (text : Text) : Except Impossibility Bool :=
  let word := text.lowered
  if ["yes", "true", "on"].contains word.plain then .ok true
  else if ["no", "false", "off"].contains word.plain then .ok false
  else .error (.notTruthValue word)

/-- The date or moment of a text. -/
def readTimestamp (text : Text) : Except Impossibility Value.Scalar :=
  match text.chars?.bind fun cs => Stamp.ofChars? (Form.dropLineFeed cs) with
  | none => .error .notTimestamp
  | some s => s.value.mapError fun fault => .scalar (.calendar fault)

/-- The value of a scalar with a tag; a new not-a-number gets the given number. -/
def scalarValue (fresh : Nat) (tag : Tag) (text : Text) : Except Fault Value.Scalar :=
  match tag with
  | .null => .ok ⟨.null, rfl⟩
  | .bool => ((readBool text).map fun b => ⟨.bool b, rfl⟩).mapError .impossible
  | .int => ((readInt text).map fun n => ⟨.int n, rfl⟩).mapError .impossible
  | .float => ((readFloat fresh text).map fun x => ⟨.float x, rfl⟩).mapError .impossible
  | .timestamp => (readTimestamp text).mapError .impossible
  | .binary =>
    match text.chars?.bind Base64.decode with
    | some data => .ok ⟨.bytes data, rfl⟩
    | none => .error (.malformed .badBase64)
  | .str => .ok ⟨.str text, rfl⟩
  | _ => .error (.malformed .unknownTag)

end LiveConfig.Yaml
