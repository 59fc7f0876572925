import LiveConfig.Yaml.Node
import LiveConfig.Yaml.Token.Lexer

/-!
# From tokens to nodes

Every kind of collection has a function that reads its entries after its opening token.  A
missing key, value or item is an empty plain scalar, which means null.  A node can be preceded
by an anchor and a tag in either order; the anchor of a collection is known inside it already.
Collections that are nested too deeply are not read.
-/

namespace LiveConfig.Yaml

/-- The state of reading nodes. -/
structure Reading where
  tokens : List Token
  /-- What stopped the tokens, if they have no proper end. -/
  fault : Option Fault
  nodes : Nodes
  anchors : List (String × Nat)
  handles : List (String × String)
  /-- The number of collections around the next token. -/
  depth : Nat

/-- Steps that read tokens and make nodes. -/
abbrev Read := StateT Reading (Except Fault)

namespace Read

/-- The next token. -/
def peek : Read Token := do
  let r ← get
  match r.tokens with
  | t :: _ => return t
  | [] => throw (r.fault.getD (.malformed .unexpectedToken))

/-- Goes past the next token. -/
def skip : Read Unit :=
  modify fun r => { r with tokens := r.tokens.drop 1 }

def unexpected {α : Type} : Read α :=
  throw (.malformed .unexpectedToken)

/-- Makes a node and gives its number. -/
def make (node : Node) : Read Nat := do
  let r ← get
  set { r with nodes := r.nodes.push node }
  return r.nodes.size

/-- Names a node. -/
def name (anchor : Option String) (i : Nat) : Read Unit :=
  match anchor with
  | none => pure ()
  | some anchor => modify fun r => { r with anchors := (anchor, i) :: r.anchors }

/-- The node that stands for a missing one. -/
def missing : Read Nat :=
  make ⟨.null, .scalar ""⟩

/-- The greatest number of collections inside one another. -/
def nestingLimit : Nat := 492

/-- Reads what is inside a collection. -/
def inside (body : Read NodeBody) : Read NodeBody := do
  let depth := (← get).depth
  if nestingLimit ≤ depth then throw (.impossible .tooDeep)
  modify fun r => { r with depth := depth + 1 }
  let content ← body
  modify fun r => { r with depth := depth }
  return content

/-- Makes a collection whose content is read after it has got its number. -/
def collection (anchor : Option String) (tag : Tag) (empty : NodeBody) (body : Read NodeBody) :
    Read Nat := do
  let i ← make ⟨tag, empty⟩
  name anchor i
  let content ← inside body
  modify fun r => { r with nodes := r.nodes.setBody i content }
  return i

/-! ## Properties of a node -/

/-- The anchor and the tag in front of a node. -/
structure Properties where
  anchor : Option String
  tag : Option (Option String × String)

/-- Reads anchor and tag in either order. -/
def properties : Read Properties := do
  match ← peek with
  | .anchor a =>
    skip
    match ← peek with
    | .tag handle suffix =>
      skip
      return ⟨some a, some (handle, suffix)⟩
    | _ => return ⟨some a, none⟩
  | .tag handle suffix =>
    skip
    match ← peek with
    | .anchor a =>
      skip
      return ⟨some a, some (handle, suffix)⟩
    | _ => return ⟨none, some (handle, suffix)⟩
  | _ => return ⟨none, none⟩

/-- The full name of a tag. -/
def fullTag : Option (Option String × String) → Read (Option String)
  | none => return none
  | some (none, suffix) => return some suffix
  | some (some handle, suffix) => do
    match (← get).handles.lookup handle with
    | some meaning => return some (meaning ++ suffix)
    | none => throw (.malformed .undefinedHandle)

/-- An anchor can be given once only. -/
def checkAnchor (anchor : Option String) : Read Unit := do
  match anchor with
  | none => pure ()
  | some a =>
    if ((← get).anchors.lookup a).isSome then throw (.malformed .repeatedAnchor)

/-- The meaning of a scalar with or without a tag; a lone exclamation mark says nothing. -/
def scalarTag (tag : Option String) (text : Text) (plain : Bool) : Tag :=
  match tag with
  | none => if plain then Tag.ofText text else .str
  | some "!" => Tag.ofText text
  | some name => Tag.ofName name

/-- The meaning of a collection with or without a tag. -/
def collectionTag (tag : Option String) (default : Tag) : Tag :=
  match tag with
  | none | some "!" => default
  | some name => Tag.ofName name

/-! ## Nodes -/

/-- Where a node stands: whether block collections can, and items at the indentation of a key. -/
inductive Place
  | flow
  | block
  | mappingEntry
  deriving DecidableEq

mutual

/-- Reads a node. -/
def node : Nat → Place → Read Nat
  | 0, _ => unexpected
  | n + 1, place => do
    match ← peek with
    | .alias a =>
      skip
      match (← get).anchors.lookup a with
      | some i => return i
      | none => throw (.malformed .undefinedAlias)
    | _ =>
      let p ← properties
      let tag ← fullTag p.tag
      match place, ← peek with
      | .mappingEntry, .item =>
        checkAnchor p.anchor
        collection p.anchor (collectionTag tag .seq) (.sequence [])
          ((itemsBesideKeys n).map .sequence)
      | place, t => content n p.anchor tag (place != .flow) t

/-- Reads what follows the properties of a node, which starts with the given token. -/
def content : Nat → Option String → Option String → Bool → Token → Read Nat
  | 0, _, _, _, _ => unexpected
  | n + 1, anchor, tag, block, t => do
    match block, t with
    | _, .scalar text plain =>
      skip
      checkAnchor anchor
      let i ← make ⟨scalarTag tag text plain, .scalar text⟩
      name anchor i
      return i
    | _, .flowSequenceStart =>
      skip
      checkAnchor anchor
      collection anchor (collectionTag tag .seq) (.sequence []) ((flowItems n true).map .sequence)
    | _, .flowMappingStart =>
      skip
      checkAnchor anchor
      collection anchor (collectionTag tag .map) (.mapping []) ((flowEntries n true).map .mapping)
    | true, .blockSequenceStart =>
      skip
      checkAnchor anchor
      collection anchor (collectionTag tag .seq) (.sequence []) ((blockItems n).map .sequence)
    | true, .blockMappingStart =>
      skip
      checkAnchor anchor
      collection anchor (collectionTag tag .map) (.mapping []) ((blockEntries n).map .mapping)
    | _, _ =>
      if anchor.isNone && tag.isNone then unexpected
      checkAnchor anchor
      let i ← make ⟨scalarTag tag "" true, .scalar ""⟩
      name anchor i
      return i

/-- Reads the items of a block sequence up to its end. -/
def blockItems : Nat → Read (List Nat)
  | 0 => unexpected
  | n + 1 => do
    match ← peek with
    | .item =>
      skip
      let i ←
        match ← peek with
        | .item | .blockEnd => missing
        | _ => node n .block
      return i :: (← blockItems n)
    | .blockEnd =>
      skip
      return []
    | _ => unexpected

/-- Reads items that are indented like the key before them. -/
def itemsBesideKeys : Nat → Read (List Nat)
  | 0 => unexpected
  | n + 1 => do
    match ← peek with
    | .item =>
      skip
      let i ←
        match ← peek with
        | .item | .key | .value | .blockEnd => missing
        | _ => node n .block
      return i :: (← itemsBesideKeys n)
    | _ => return []

/-- Reads the entries of a block mapping up to its end. -/
def blockEntries : Nat → Read (List (Nat × Nat))
  | 0 => unexpected
  | n + 1 => do
    match ← peek with
    | .key =>
      skip
      let k ← blockPart n
      let v ← blockValue n
      return (k, v) :: (← blockEntries n)
    | .blockEnd =>
      skip
      return []
    | _ => unexpected

/-- Reads the value of a block entry, if there is one. -/
def blockValue : Nat → Read Nat
  | 0 => unexpected
  | n + 1 => do
    match ← peek with
    | .value =>
      skip
      blockPart n
    | _ => missing

/-- Reads the key or the value of a block entry after its indicator. -/
def blockPart : Nat → Read Nat
  | 0 => unexpected
  | n + 1 => do
    match ← peek with
    | .key | .value | .blockEnd => missing
    | _ => node n .mappingEntry

/-- Reads the items of a flow sequence up to its end; a single entry can stand as an item. -/
def flowItems : Nat → Bool → Read (List Nat)
  | 0, _ => unexpected
  | n + 1, first => do
    if let .flowSequenceEnd ← peek then
      skip
      return []
    unless first do
      match ← peek with
      | .comma => skip
      | _ => unexpected
    match ← peek with
    | .flowSequenceEnd =>
      skip
      return []
    | .key =>
      skip
      let i ← collection none .map (.mapping []) (do
        let k ←
          match ← peek with
          | .value | .comma | .flowSequenceEnd => missing
          | _ => node n .flow
        let v ← flowValue n
        return .mapping [(k, v)])
      return i :: (← flowItems n false)
    | _ =>
      let i ← node n .flow
      return i :: (← flowItems n false)

/-- Reads the entries of a flow mapping up to its end. -/
def flowEntries : Nat → Bool → Read (List (Nat × Nat))
  | 0, _ => unexpected
  | n + 1, first => do
    if let .flowMappingEnd ← peek then
      skip
      return []
    unless first do
      match ← peek with
      | .comma => skip
      | _ => unexpected
    match ← peek with
    | .flowMappingEnd =>
      skip
      return []
    | .key =>
      skip
      let k ←
        match ← peek with
        | .value | .comma | .flowMappingEnd => missing
        | _ => node n .flow
      let v ← flowValue n
      return (k, v) :: (← flowEntries n false)
    | _ =>
      let k ← node n .flow
      let v ← missing
      return (k, v) :: (← flowEntries n false)

/-- Reads the value of a flow entry, if there is one. -/
def flowValue : Nat → Read Nat
  | 0 => unexpected
  | n + 1 => do
    match ← peek with
    | .value =>
      skip
      match ← peek with
      | .comma | .flowSequenceEnd | .flowMappingEnd => missing
      | _ => node n .flow
    | _ => missing

end

/-! ## Documents -/

/-- What a document starts with: the handles known without a directive. -/
def usualHandles : List (String × String) :=
  [("!", "!"), ("!!", Tag.space)]

/-- Reads the directives in front of a document. -/
def directives : Nat → Bool → List (String × String) → Read (List (String × String))
  | 0, _, _ => unexpected
  | n + 1, versioned, handles => do
    match ← peek with
    | .directive d =>
      skip
      match d with
      | .version major =>
        if versioned then throw (.malformed .repeatedDirective)
        if major ≠ 1 then throw (.malformed .wrongVersion)
        directives n true handles
      | .handle name meaning =>
        if (handles.lookup name).isSome then throw (.malformed .repeatedDirective)
        directives n versioned ((name, meaning) :: handles)
      | .other => directives n versioned handles
    | _ => return handles

/-- Reads the root of a document with an explicit start; it may be missing. -/
def explicitRoot (fuel : Nat) : Read Nat := do
  let handles ← directives fuel false []
  modify fun r => { r with handles := handles ++ usualHandles }
  match ← peek with
  | .documentStart => skip
  | _ => throw (.malformed .missingDocumentStart)
  match ← peek with
  | .directive _ | .documentStart | .documentEnd | .streamEnd => missing
  | _ => node fuel .block

/-- Goes past marks of the end of a document. -/
def skipEnds : Nat → Read Unit
  | 0 => pure ()
  | n + 1 => do
    if let .documentEnd ← peek then
      skip
      skipEnds n

/-- Reads the only document of a text, if it has one. -/
def document (fuel : Nat) : Read (Option Nat) := do
  match ← peek with
  | .streamEnd => return none
  | t =>
    let root ←
      match t with
      | .directive _ | .documentStart => explicitRoot fuel
      | _ => node fuel .block
    skipEnds fuel
    match ← peek with
    | .streamEnd => return some root
    | _ =>
      let _ ← directives fuel false []
      throw (.malformed .severalDocuments)

end Read

/-- The nodes of a text and the number of the root, if there is a document. -/
def nodesOf (text : List Char) : Except Fault (Option Nat × Nodes) := do
  let t := tokensOf text
  let fuel := 3 * t.tokens.length + 4
  let (root, r) ← (Read.document fuel).run ⟨t.tokens, t.fault, #[], [], Read.usualHandles, 0⟩
  return (root, r.nodes)

end LiveConfig.Yaml
