import LiveConfig.Yaml.Token.Block
import LiveConfig.Yaml.Token.Mark
import LiveConfig.Yaml.Token.Plain
import LiveConfig.Yaml.Token.Quoted

/-!
# From text to tokens

Tokens are read one after another.  Two things need memory.  The indentation of the block
collections that are open decides where they end.  And a node that may turn out to be a key is
remembered, one for each depth of flow collections, until its colon is found or can no longer
come: a key and its colon stand on one line, at most 1024 characters apart.

As a `key` token may still be put in front of it, such a node cannot be used before it is settled
whether it is a key.  So a fault in the text behind it comes before any fault in its use.
-/

namespace LiveConfig.Yaml

/-- A node that may turn out to be a key. -/
structure Candidate where
  /-- How many tokens were read before it. -/
  position : Nat
  /-- Whether it must be a key, as it stands at the indentation of a mapping. -/
  required : Bool
  index : Nat
  line : Nat
  column : Nat

/-- The state between two tokens. -/
structure Lexer where
  rest : Spots
  /-- Tokens read so far, the last one first. -/
  tokens : List Token
  /-- How many flow collections are open. -/
  depth : Nat
  /-- The indentation of the innermost block collection. -/
  indent : Int
  /-- The indentations of those around it. -/
  outer : List Int
  /-- Whether a key may start here. -/
  keyAllowed : Bool
  /-- Possible keys by depth. -/
  candidates : List (Nat × Candidate)

namespace Lexer

/-- The state at the start of a text. -/
def start (text : List Char) : Lexer :=
  ⟨Spots.ofText text, [], 0, -1, [], true, []⟩

def inFlow (l : Lexer) : Bool :=
  l.depth != 0

/-- Appends a token. -/
def push (l : Lexer) (t : Token) : Lexer :=
  { l with tokens := t :: l.tokens }

/-- Inserts a token behind the first `n` ones. -/
def insertAt (l : Lexer) (n : Nat) (t : Token) : Lexer :=
  { l with tokens := l.tokens.insertIdx (l.tokens.length - n) t }

/-- Goes on at a later place. -/
def moveTo (l : Lexer) (rest : Spots) : Lexer :=
  { l with rest := rest }

def allowKey (l : Lexer) (allowed : Bool) : Lexer :=
  { l with keyAllowed := allowed }

/-! ## Blanks between tokens -/

/-- Skips spaces, comments and line breaks; after a line break a key may start. -/
def skipGap : Nat → Lexer → Lexer
  | 0, l => l
  | n + 1, l =>
    let s := l.rest.skipSpaces.skipComment
    match s.takeBreak with
    | some (_, s) => skipGap n ((l.moveTo s).allowKey (l.keyAllowed || !l.inFlow))
    | none => l.moveTo s

/-- Goes to the next token. -/
def toNextToken (l : Lexer) : Lexer :=
  let s :=
    if l.rest.index == 0 && l.rest.peek == orderMark then l.rest.drop 1 else l.rest
  skipGap s.length (l.moveTo s)

/-! ## Indentation -/

/-- Ends the block collections that are indented more than a column. -/
def unwindTo (column : Int) : List Int → Lexer → Lexer
  | [], l => l
  | i :: outer, l =>
    if column < l.indent then
      unwindTo column outer { l.push .blockEnd with indent := i, outer := outer }
    else l

/-- Ends the block collections that are indented more than a column; inside flow, none. -/
def unwind (column : Int) (l : Lexer) : Lexer :=
  if l.inFlow then l else unwindTo column l.outer l

/-- Whether a column is indented more than the innermost block collection. -/
def opens (l : Lexer) (column : Nat) : Bool :=
  decide (l.indent < column)

/-- Opens a block collection at a column. -/
def openAt (l : Lexer) (column : Nat) : Lexer :=
  { l with indent := column, outer := l.indent :: l.outer }

/-! ## Possible keys -/

/-- Whether the colon of a possible key can no longer come. -/
def isStale (l : Lexer) (c : Candidate) : Bool :=
  c.line != l.rest.line || decide (1024 < l.rest.index - c.index)

/-- Forgets the possible keys whose colon can no longer come. -/
def dropStale (l : Lexer) : Except Fault Lexer :=
  if l.candidates.any fun c => l.isStale c.2 && c.2.required then .error (.malformed .missingColon)
  else .ok { l with candidates := l.candidates.filter fun c => !l.isStale c.2 }

def candidate? (l : Lexer) : Option Candidate :=
  l.candidates.lookup l.depth

def eraseCandidate (l : Lexer) : Lexer :=
  { l with candidates := l.candidates.filter fun c => c.1 != l.depth }

/-- Forgets the possible key at this depth. -/
def dropCandidate (l : Lexer) : Except Fault Lexer :=
  match l.candidate? with
  | none => .ok l
  | some c => if c.required then .error (.malformed .missingColon) else .ok l.eraseCandidate

/-- Remembers the node that starts here as a possible key. -/
def saveCandidate (l : Lexer) : Except Fault Lexer :=
  if l.keyAllowed then do
    let required := !l.inFlow && decide (l.indent = l.rest.column)
    let l ← l.dropCandidate
    let c : Candidate := ⟨l.tokens.length, required, l.rest.index, l.rest.line, l.rest.column⟩
    return { l with candidates := (l.depth, c) :: l.candidates }
  else .ok l

/-! ## Single tokens -/

/-- Ends all block collections before a mark between documents. -/
def closeAll (l : Lexer) : Except Fault Lexer := do
  let l ← (l.unwind (-1)).dropCandidate
  return l.allowKey false

/-- The mark of the start or the end of a document. -/
def readSeparator (t : Token) (l : Lexer) : Except Fault Lexer := do
  let l ← l.closeAll
  return (l.push t).moveTo (l.rest.drop 3)

def readDirective (l : Lexer) : Except Fault Lexer := do
  let l ← l.closeAll
  let (t, rest) ← Mark.readDirective l.rest
  return (l.push t).moveTo rest

/-- An opening bracket. -/
def openFlow (t : Token) (l : Lexer) : Except Fault Lexer := do
  let l ← l.saveCandidate
  return { (l.push t).moveTo (l.rest.drop 1) with depth := l.depth + 1, keyAllowed := true }

/-- A closing bracket. -/
def closeFlow (t : Token) (l : Lexer) : Except Fault Lexer := do
  let l ← l.dropCandidate
  unless l.inFlow do throw (.malformed .unopenedBracket)
  return { (l.push t).moveTo (l.rest.drop 1) with depth := l.depth - 1, keyAllowed := false }

/-- The comma between flow entries. -/
def readComma (l : Lexer) : Except Fault Lexer := do
  let l ← (l.allowKey true).dropCandidate
  return (l.push .comma).moveTo (l.rest.drop 1)

/-- Opens a block collection for an entry that starts here, if it is indented more. -/
def openBlock (t : Token) (l : Lexer) : Except Fault Lexer :=
  if l.inFlow then .ok l
  else if !l.keyAllowed then .error (.malformed .misplacedIndicator)
  else if l.opens l.rest.column then .ok ((l.openAt l.rest.column).push t)
  else .ok l

/-- The dash in front of an item. -/
def readItem (l : Lexer) : Except Fault Lexer := do
  let l ← l.openBlock .blockSequenceStart
  let l ← (l.allowKey true).dropCandidate
  return (l.push .item).moveTo (l.rest.drop 1)

/-- The question mark in front of a key. -/
def readKey (l : Lexer) : Except Fault Lexer := do
  let l ← l.openBlock .blockMappingStart
  let l ← (l.allowKey !l.inFlow).dropCandidate
  return (l.push .key).moveTo (l.rest.drop 1)

/-- The colon in front of a value, which may turn the node before it into a key. -/
def readValue (l : Lexer) : Except Fault Lexer := do
  match l.candidate? with
  | some c =>
    let l := l.eraseCandidate.insertAt c.position .key
    let l :=
      if !l.inFlow && l.opens c.column then
        (l.openAt c.column).insertAt c.position .blockMappingStart
      else l
    return ((l.allowKey false).push .value).moveTo (l.rest.drop 1)
  | none =>
    let l ← l.openBlock .blockMappingStart
    let l ← (l.allowKey !l.inFlow).dropCandidate
    return (l.push .value).moveTo (l.rest.drop 1)

/-- A node that may be a key, read by the given function. -/
def readNode (read : Spots → Except Fault (Token × Spots)) (l : Lexer) : Except Fault Lexer := do
  let l ← l.saveCandidate
  let (t, rest) ← read l.rest
  return ((l.allowKey false).push t).moveTo rest

def readPlain (l : Lexer) : Except Fault Lexer := do
  let l ← l.saveCandidate
  let scalar := Plain.read l.inFlow (l.indent + 1) l.rest
  let t := Token.scalar (Text.ofChars scalar.text) true
  return ((l.allowKey scalar.multiline).push t).moveTo scalar.rest

def readBlock (l : Lexer) : Except Fault Lexer := do
  let l ← (l.allowKey true).dropCandidate
  let (text, rest) ← Block.read l.indent l.rest
  return (l.push (.scalar text false)).moveTo rest

/-- Reads the token that starts here. -/
def readToken (l : Lexer) : Except Fault Lexer :=
  let s := l.rest
  let c := s.peek
  let lineStart := s.column == 0
  let gapNext := isGap (s.peekAt 1)
  if c == '%' && lineStart then l.readDirective
  else if lineStart && s.isTriple '-' then l.readSeparator .documentStart
  else if lineStart && s.isTriple '.' then l.readSeparator .documentEnd
  else if c == '[' then l.openFlow .flowSequenceStart
  else if c == '\x7b' then l.openFlow .flowMappingStart
  else if c == ']' then l.closeFlow .flowSequenceEnd
  else if c == '\x7d' then l.closeFlow .flowMappingEnd
  else if c == ',' then l.readComma
  else if c == '-' && gapNext then l.readItem
  else if c == '?' && (l.inFlow || gapNext) then l.readKey
  else if c == ':' && (l.inFlow || gapNext) then l.readValue
  else if c == '*' then
    l.readNode fun s => (Mark.readName s).map fun (name, rest) => (.alias name, rest)
  else if c == '&' then
    l.readNode fun s => (Mark.readName s).map fun (name, rest) => (.anchor name, rest)
  else if c == '!' then l.readNode Mark.readTag
  else if (c == '|' || c == '>') && !l.inFlow then l.readBlock
  else if c == '\'' || c == '"' then
    l.readNode fun s => (Quoted.read s).map fun (text, rest) => (.scalar text false, rest)
  else if Plain.startsHere l.inFlow s then l.readPlain
  else .error (.malformed .unexpectedCharacter)

/-- The tokens that can be used, in order, and the fault behind them, if any. -/
structure Tokens where
  tokens : List Token
  fault : Option Fault

/-- How many tokens stand in front of the first one that may still turn out to be a key. -/
def settled (l : Lexer) : Nat :=
  (l.candidates.filter fun c => !l.isStale c.2).foldl (fun n c => min n c.2.position)
    l.tokens.length

/-- The tokens when a fault comes up behind them. -/
def haltAt (l : Lexer) (fault : Fault) : Tokens :=
  ⟨l.tokens.reverse.take l.settled, some fault⟩

/-- Reads the next token, or the end. -/
def advance (l : Lexer) : Except Fault Lexer := do
  let l ← l.toNextToken.dropStale
  let l := l.unwind l.rest.column
  if l.rest.peek == endChar then return (← l.closeAll).push .streamEnd
  else l.readToken

/-- Whether the end has been read. -/
def isDone (l : Lexer) : Bool :=
  match l.tokens with
  | .streamEnd :: _ => true
  | _ => false

/-- Reads on to the end; every token takes at least one character. -/
def run : Nat → Lexer → Tokens
  | 0, l => l.haltAt (.malformed .unexpectedCharacter)
  | n + 1, l =>
    match l.advance with
    | .error e => l.haltAt e
    | .ok l => if l.isDone then ⟨l.tokens.reverse, none⟩ else run n l

end Lexer

/-- The tokens of a text. -/
def tokensOf (text : List Char) : Lexer.Tokens :=
  if text.all isAllowed then
    let l := Lexer.start text
    l.run (l.rest.length + 1)
  else ⟨[], some (.malformed .unprintable)⟩

end LiveConfig.Yaml
