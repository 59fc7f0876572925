import LiveConfig.Text.Basic

/-!
# Tokens of a document

The text of a document is a sequence of tokens.  Indentation shows in the tokens that start and
end block collections; a key that is recognised by its colon only is marked by a `key` token put
in front of it later.
-/

namespace LiveConfig.Yaml

/-- A line that begins with a per cent sign. -/
inductive Directive
  | version (major : Nat)
  | handle (name meaning : String)
  | other

/-- A token. -/
inductive Token
  | directive (d : Directive)
  | documentStart
  | documentEnd
  | blockSequenceStart
  | blockMappingStart
  | blockEnd
  | flowSequenceStart
  | flowSequenceEnd
  | flowMappingStart
  | flowMappingEnd
  /-- The dash in front of an item. -/
  | item
  /-- The comma between flow entries. -/
  | comma
  | key
  | value
  | alias (name : String)
  | anchor (name : String)
  | tag (handle : Option String) (suffix : String)
  /-- A scalar; a plain one has neither quotes nor a block header. -/
  | scalar (text : Text) (plain : Bool)
  | streamEnd

end LiveConfig.Yaml
