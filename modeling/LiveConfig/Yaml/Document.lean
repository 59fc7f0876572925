import LiveConfig.Value.Spread
import LiveConfig.Yaml.Node.Grammar
import LiveConfig.Yaml.Scalar

/-!
# From nodes to values

Scalars get their values at once and collections are filled later, in the order in which they
came up; so of two faults the one nearer to the root is reported.  Before a mapping is filled
the entries behind its merge keys are put in front of its own, where its own win: the later of
two entries with equal keys gives the value, the earlier one the place.

Not-a-numbers that a document makes are told apart by numbers, from one on.  So are the collections
that contain themselves.
-/

namespace LiveConfig.Yaml

/-- What has been made of a node. -/
inductive Made
  | scalar (v : Value.Scalar)
  | collection

/-- The state of making values. -/
structure Building where
  nodes : Nodes
  made : Array (Option Made)
  /-- Collections still to be filled, the last one first. -/
  waiting : List Nat

/-- Steps that make values. -/
abbrev Build := StateT Building (Except Fault)

namespace Build

def refuse {α : Type} (cause : Malformation) : Build α :=
  throw (.malformed cause)

/-! ## Scalars -/

/-- The text of a node; of a mapping, the text of the value that stands for it. -/
def textOf (nodes : Nodes) : Nat → Nat → Except Fault Text
  | 0, _ => .error (.impossible .tooDeep)
  | n + 1, i =>
    match nodes[i]? with
    | some ⟨_, .scalar text⟩ => .ok text
    | some ⟨_, .mapping entries⟩ =>
      match entries.find? fun e => nodes.tagOf e.1 == .value with
      | some (_, v) => textOf nodes n v
      | none => .error (.malformed .wrongShape)
    | _ => .error (.malformed .wrongShape)

/-- Whether a tag asks for a collection. -/
def isCollection : Tag → Bool
  | .seq | .map | .set | .omap | .pairs => true
  | _ => false

/-- Whether a tag has a meaning of its own. -/
def isKnown : Tag → Bool
  | .merge | .value | .unknown _ => false
  | _ => true

/-- The misuse of a mapping as the text of a date or a moment, which no entry can stand for. -/
def entriesForText : Misuse :=
  .notText (Value.list []).kindName

/-- The number of what is made of a node; zero is the number of a not-a-number made of none. -/
def numberOf (i : Nat) : Nat :=
  i + 1

/-- Makes the value of a scalar, or puts a collection on the waiting list. -/
def make (i : Nat) : Build Made := do
  let b ← get
  if let some (some m) := b.made[i]? then return m
  let tag := b.nodes.tagOf i
  if isCollection tag then
    set { b with made := b.made.setIfInBounds i (some .collection), waiting := i :: b.waiting }
    return .collection
  else if isKnown tag then
    let text ← textOf b.nodes (b.nodes.size + 1) i
    if tag = .timestamp ∧ !b.nodes.isScalar i then throw (.impossible (.misuse entriesForText))
    let v ← scalarValue (numberOf i) tag text
    set { b with made := b.made.setIfInBounds i (some (.scalar v)) }
    return .scalar v
  else refuse .unknownTag

/-! ## Merge keys -/

/-- A way to replace the merge keys of one mapping. -/
abbrev Flattening := Nat → Nodes → Except Fault Nodes

/-- The entries of several mappings, those of the last one first. -/
def entriesOfAll (flatten : Flattening) :
    List Nat → Nodes → Except Fault (List (Nat × Nat) × Nodes)
  | [], nodes => .ok ([], nodes)
  | v :: rest, nodes =>
    match nodes[v]? with
    | some ⟨_, .mapping _⟩ => do
      let nodes ← flatten v nodes
      let entries := nodes.entriesOf v
      let (more, nodes) ← entriesOfAll flatten rest nodes
      return (more ++ entries, nodes)
    | _ => .error (.malformed .unmergeable)

/-- The entries behind a merge key: those of a mapping or of several. -/
def entriesBehind (flatten : Flattening) (v : Nat) (nodes : Nodes) :
    Except Fault (List (Nat × Nat) × Nodes) :=
  match nodes[v]? with
  | some ⟨_, .mapping _⟩ => entriesOfAll flatten [v] nodes
  | some ⟨_, .sequence items⟩ => entriesOfAll flatten items nodes
  | _ => .error (.malformed .unmergeable)

/--
Takes the merge keys out of a mapping, from a position on, and gathers the entries behind them.
A mapping that is merged into itself has been gone through to the end meanwhile.
-/
def gather (flatten : Flattening) (i : Nat) :
    Nat → Nat → List (Nat × Nat) → Nodes → Except Fault (List (Nat × Nat) × Nodes)
  | 0, _, merged, nodes => .ok (merged, nodes)
  | n + 1, position, merged, nodes =>
    match (nodes.entriesOf i)[position]? with
    | none => .ok (merged, nodes)
    | some (k, v) =>
      match nodes.tagOf k with
      | .merge => do
        let nodes := nodes.setBody i (.mapping ((nodes.entriesOf i).eraseIdx position))
        let (more, nodes) ← entriesBehind flatten v nodes
        gather flatten i n position (merged ++ more) nodes
      | .value => gather flatten i n (position + 1) merged (nodes.setTag k .str)
      | _ => gather flatten i n (position + 1) merged nodes

/-- Puts the entries behind the merge keys of a mapping in front of its own. -/
def flattenWithin : Nat → Flattening
  | 0, _, _ => .error (.impossible .tooDeep)
  | n + 1, i, nodes => do
    let (merged, nodes) ← gather (flattenWithin n) i (nodes.entriesOf i).length 0 [] nodes
    return nodes.setBody i (.mapping (merged ++ nodes.entriesOf i))

/-- The number of entries of all mappings. -/
def entryCount (nodes : Nodes) : Nat :=
  nodes.foldl (fun n node => n + (match node.body with | .mapping es => es.length | _ => 0)) 0

/-- Replaces the merge keys of a mapping; each one takes one step inwards at most. -/
def flattenMapping (i : Nat) : Build Unit := do
  let b ← get
  let nodes ← flattenWithin (entryCount b.nodes + 1) i b.nodes
  set { b with nodes := nodes }

/-! ## Collections -/

/-- Makes keys and values of entries; a key must not be a collection. -/
def makeEntries : List (Nat × Nat) → Build Unit
  | [] => pure ()
  | (k, v) :: rest => do
    match ← make k with
    | .collection => refuse .unhashableKey
    | .scalar _ =>
      let _ ← make v
      makeEntries rest

/-- Makes the keys and values of mappings of one entry each. -/
def makeSingles : List Nat → Build Unit
  | [] => pure ()
  | i :: rest => do
    match (← get).nodes[i]? with
    | some ⟨_, .mapping [(k, v)]⟩ =>
      let _ ← make k
      let _ ← make v
      makeSingles rest
    | _ => refuse .wrongShape

/-- Fills a collection. -/
def fill (i : Nat) : Build Unit := do
  match (← get).nodes[i]? with
  | some ⟨.seq, .sequence items⟩ => items.forM fun j => do let _ ← make j
  | some ⟨.omap, .sequence items⟩ | some ⟨.pairs, .sequence items⟩ => makeSingles items
  | some ⟨.map, .mapping _⟩ | some ⟨.set, .mapping _⟩ =>
    flattenMapping i
    makeEntries ((← get).nodes.entriesOf i)
  | _ => refuse .wrongShape

/-- Fills the collections of a list and then those that came up meanwhile. -/
def fillAll : Nat → List Nat → Build Unit
  | 0, _ => pure ()
  | n + 1, i :: rest => do
    fill i
    fillAll n rest
  | n + 1, [] => do
    let b ← get
    if b.waiting.isEmpty then pure ()
    else
      set { b with waiting := [] }
      fillAll n b.waiting.reverse

/-- Makes all values that a root leads to. -/
def makeAll (root : Nat) : Build Unit := do
  let _ ← make root
  fillAll (2 * (← get).nodes.size + 2) []

/-! ## Values -/

/-- Entries written one after another. -/
def written {α : Type} (es : List (Value × α)) : List (Value × α) :=
  es.foldl (fun es e => assign e.1 e.2 es) []

/--
The collections around a place, up to the outermost tuple: each one's node, and for the tuples of
a sequence of entries their position in it, counted from one.
-/
abbrev Around := List (Nat × Nat)

/-- The collections around a place inside another one; outside of tuples none are remembered. -/
def Around.within (around : Around) (collection : Nat × Nat) : Around :=
  if around.isEmpty then [] else collection :: around

/-- The value of a scalar that has been made. -/
def scalar? (b : Building) (i : Nat) : Option Value.Scalar :=
  match b.made[i]? with
  | some (some (.scalar v)) => some v
  | _ => none

/-- The keys of entries, which are scalars, each once with the node of its value. -/
def keyed (b : Building) (entries : List (Nat × Nat)) : Option (List (Value × Nat)) :=
  (entries.mapM fun e => (scalar? b e.1).map fun key => (key.1, e.2)).map written

/--
The value made of a node, unless it contains itself outside of tuples.  Inside of a tuple a
collection that comes up again is not made once more.
-/
def value? (b : Building) : Nat → Around → Nat → Option Value
  | 0, _, _ => none
  | n + 1, around, i =>
    let within := Around.within around (i, 0)
    let again (form : CollectionForm) (between : Nat) : Value :=
      .again form (numberOf i) between
    match scalar? b i with
    | some v => some v.1
    | none =>
      match b.nodes[i]? with
      | some ⟨.map, .mapping entries⟩ =>
        match around.idxOf? (i, 0) with
        | some between => some (again .map between)
        | none => do
          let entries ← keyed b entries
          (entries.mapM fun e => (value? b n within e.2).map fun x => (e.1, x)).map Value.map
      | some ⟨.set, .mapping entries⟩ =>
        (keyed b entries).map fun members => Value.ofMembers (members.map Prod.fst)
      | some ⟨tag, .sequence items⟩ =>
        match around.idxOf? (i, 0) with
        | some between => some (again .list between)
        | none =>
          if tag = .seq then (items.mapM (value? b n within)).map Value.list
          else
            (items.zipIdx.mapM fun (item : Nat × Nat) =>
              let tuple := (i, item.2 + 1)
              match within.idxOf? tuple with
              | some between => some (again .tuple between)
              | none => do
                let (k, v) := (b.nodes.entriesOf item.1).headD (item.1, item.1)
                let key ← value? b n (tuple :: within) k
                let x ← value? b n (tuple :: within) v
                return Value.tuple [key, x]).map Value.list
      | _ => none

/-- The kind of a collection by its tag. -/
def kindOf : Tag → String
  | .map => (Value.map []).kindName
  | .set => (Value.set []).kindName
  | _ => (Value.list []).kindName

/-- The value of a document with the given root. -/
def valueOf (root : Nat) : Build Value := do
  makeAll root
  let b ← get
  match value? b (2 * b.nodes.size + 2) [] root with
  | some v => return v
  | none => throw (.endless (kindOf (b.nodes.tagOf root)))

end Build

/-- The value of a text, null if it has no document, and how many numbers it has for its values. -/
def load (text : List Char) : Except Fault (Value × Nat) := do
  match ← nodesOf text with
  | (none, _) => return (.null, 0)
  | (some root, nodes) =>
    let b : Building := ⟨nodes, Array.replicate nodes.size none, []⟩
    let v ← (Build.valueOf root).run' b
    return (v, nodes.size)

end LiveConfig.Yaml
