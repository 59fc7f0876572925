import LiveConfig.Yaml.Scalar.Form

/-!
# Nodes of a document

A document is a graph of nodes: an alias leads to a node that stands elsewhere, possibly to one
around it.  So nodes are kept in an array and refer to each other by their numbers.
-/

namespace LiveConfig.Yaml

/-- The content of a node. -/
inductive NodeBody
  | scalar (text : Text)
  | sequence (items : List Nat)
  | mapping (entries : List (Nat × Nat))

/-- A node with its meaning. -/
structure Node where
  tag : Tag
  body : NodeBody

/-- The nodes of a document. -/
abbrev Nodes := Array Node

namespace Nodes

/-- The entries of a mapping; other nodes have none. -/
def entriesOf (nodes : Nodes) (i : Nat) : List (Nat × Nat) :=
  match nodes[i]? with
  | some ⟨_, .mapping entries⟩ => entries
  | _ => []

/-- The meaning of a node. -/
def tagOf (nodes : Nodes) (i : Nat) : Tag :=
  match nodes[i]? with
  | some node => node.tag
  | none => .null

/-- Whether a node is a scalar. -/
def isScalar (nodes : Nodes) (i : Nat) : Bool :=
  match nodes[i]? with
  | some ⟨_, .scalar _⟩ => true
  | _ => false

/-- Changes the meaning of a node. -/
def setTag (nodes : Nodes) (i : Nat) (tag : Tag) : Nodes :=
  nodes.modify i fun node => { node with tag := tag }

/-- Changes the content of a node. -/
def setBody (nodes : Nodes) (i : Nat) (body : NodeBody) : Nodes :=
  nodes.modify i fun node => { node with body := body }

end Nodes

end LiveConfig.Yaml
