import LiveConfig.Environment

/-!
# Calls on a layer stack

The operations on a layer stack as data, so that a script can hold them, with one function that
carries a call out and answers it.  Snapshots of the stack can be kept and looked at later.
-/

namespace LiveConfig

/-- A call on a layer stack. -/
inductive StackCall
  | addFirst (layer : Layer)
  | addLast (layer : Layer)
  | addBefore (anchor : Text) (layer : Layer)
  | addAfter (anchor : Text) (layer : Layer)
  | replace (name : Text) (layer : Layer)
  | remove (name : Text)
  | indexOf (name : Text)
  | precedenceOf (name : Text)
  | get (name : Text)
  | contains (name : Text)
  | size
  | names
  | shown
  | describe
  | save
  | saved (i : Nat)
  /-- Writes an entry of a mapping in place. -/
  | put (layer : Text) (key value : Value)
  /-- Drops an entry of a mapping in place. -/
  | drop (layer : Text) (key : Value)

/-- The answer to a call. -/
inductive StackAnswer
  | nothing
  | layer (layer : Layer)
  | layers (layers : List Layer)
  | number (n : Nat)
  | truth (b : Bool)
  | names (names : List Text)
  | text (s : String)

/-- A stack with the snapshots kept of it. -/
structure StackDesk where
  stack : LayerStack
  saved : List (List Layer)

namespace StackDesk

instance : Inhabited StackDesk := ⟨⟨LayerStack.empty, []⟩⟩

def ofStack (stack : LayerStack) : StackDesk :=
  ⟨stack, []⟩

/-- The entries of the mapping of a name. -/
def entriesOf? (s : LayerStack) (name : Text) : Option Entries :=
  match s.get? name with
  | some (.mapping _ entries _) => some entries
  | _ => none

/-- Drops an entry of a mapping, which must be there. -/
def dropEntry (s : LayerStack) (name : Text) (key : Value) : Except Failure LayerStack :=
  match entriesOf? s name with
  | none => .error (.unknownLayer name)
  | some entries => do
    Layer.checkKey key
    if entries.contains key then return s.editEntries name fun t => t.erase key
    else .error (.missingKey key)

/-- Writes an entry of a mapping. -/
def putEntry (s : LayerStack) (name : Text) (key value : Value) : Except Failure LayerStack :=
  match entriesOf? s name with
  | none => .error (.unknownLayer name)
  | some _ => (Layer.checkKey key).map fun _ => s.editEntries name fun t => t.insert key value

/-- Replaces the stack and answers nothing. -/
def change (d : StackDesk) (stack : Except Failure LayerStack) :
    Except Failure (StackDesk × StackAnswer) :=
  stack.map fun s => ({ d with stack := s }, .nothing)

/-- Replaces the stack and answers the layer that left it. -/
def exchange (d : StackDesk) (result : Except Failure (LayerStack × Layer)) :
    Except Failure (StackDesk × StackAnswer) :=
  result.map fun (s, layer) => ({ d with stack := s }, .layer layer)

/-- Carries out a call. -/
def run (d : StackDesk) : StackCall → Except Failure (StackDesk × StackAnswer)
  | .addFirst layer => d.change (d.stack.addFirst layer)
  | .addLast layer => d.change (d.stack.addLast layer)
  | .addBefore anchor layer => d.change (d.stack.addBefore anchor layer)
  | .addAfter anchor layer => d.change (d.stack.addAfter anchor layer)
  | .replace name layer => d.exchange (d.stack.replace name layer)
  | .remove name => d.exchange (d.stack.remove name)
  | .indexOf name => (d.stack.indexOf name).map fun i => (d, .number i)
  | .precedenceOf name => (d.stack.precedenceOf name).map fun i => (d, .number i)
  | .get name =>
    match d.stack.get? name with
    | none => .ok (d, .nothing)
    | some layer => .ok (d, .layer layer)
  | .contains name => .ok (d, .truth (d.stack.contains name))
  | .size => .ok (d, .number d.stack.size)
  | .names => .ok (d, .names d.stack.names)
  | .shown => .ok (d, .text d.stack.shown)
  | .describe => .ok (d, .layers d.stack.layers)
  | .save => .ok ({ d with saved := d.saved ++ [d.stack.layers] }, .number (d.saved.length + 1))
  | .saved i =>
    match d.saved[i]? with
    | none => .error .noSnapshot
    | some layers => .ok (d, .names (layers.map Layer.name))
  | .put name key value => d.change (putEntry d.stack name key value)
  | .drop name key => d.change (dropEntry d.stack name key)

end StackDesk

end LiveConfig
