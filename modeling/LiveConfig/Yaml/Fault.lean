import LiveConfig.Failure

/-!
# What stops the reading of a document

A document is malformed, for one of many causes, or it is well formed and holds something whose
value is impossible, or it contains itself and so has no finite value.
-/

namespace LiveConfig.Yaml

/-- Why a document is malformed. -/
inductive Malformation
  /-- A character that no document may hold. -/
  | unprintable
  /-- A character with which no token starts. -/
  | unexpectedCharacter
  /-- A key that must be on one line with its colon has none. -/
  | missingColon
  /-- A dash, a question mark or a colon where no entry may start. -/
  | misplacedIndicator
  /-- A bracket that closes nothing. -/
  | unopenedBracket
  | badDirective
  | badAnchor
  | badTag
  | badBlockHeader
  | unclosedQuote
  | badEscape
  /-- A separator of documents inside quotes. -/
  | separatorInQuotes
  | repeatedDirective
  | wrongVersion
  | undefinedHandle
  | missingDocumentStart
  /-- Tokens in an order that no document has. -/
  | unexpectedToken
  | repeatedAnchor
  | undefinedAlias
  | severalDocuments
  /-- A tag without meaning. -/
  | unknownTag
  /-- A node of another shape than its tag asks for. -/
  | wrongShape
  | unmergeable
  | unhashableKey
  | badBase64
  deriving DecidableEq

/-- Why a part of a well-formed document has no value. -/
inductive Impossibility
  | scalar (problem : ScalarProblem)
  /-- A word that is no truth value, tagged as one. -/
  | notTruthValue (word : Text)
  | emptyNumber
  | notTimestamp
  | misuse (m : Misuse)
  | tooDeep

/-- The failure to read a part that has no value. -/
def Impossibility.failure : Impossibility → Failure
  | .scalar problem => .scalar problem
  | .notTruthValue word => .notTruthValue word
  | .emptyNumber => .emptyNumber
  | .notTimestamp => .notTimestamp
  | .misuse m => .misuse m
  | .tooDeep => .tooDeep

/-- What stops the reading of a document. -/
inductive Fault
  | malformed (cause : Malformation)
  /-- A part of a valid form with an impossible value. -/
  | impossible (why : Impossibility)
  /-- A document of the given kind that contains itself. -/
  | endless (kind : String)

end LiveConfig.Yaml
