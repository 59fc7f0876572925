import LiveConfig.Failure

/-!
# Layers

A layer is a named piece of configuration: a mapping with entries that can be listed, a lookup
that answers for a key but lists nothing, or a composite of child layers, the first of which
takes precedence.  Reading a key and listing keys or children may fail; which reads fail is
part of the layer.

`Layer.find?` looks a key up, `Layer.holds` asks whether it is there; both skip layers that
report the key as absent and stop at the first failure of another kind.
-/

namespace LiveConfig

/-- A listing that fails after some of its members. -/
structure ListingFault where
  after : Nat
  failure : Failure

/-- Which reads of a layer fail. -/
structure ReadFaults where
  keys : List (Value × Failure)
  listing : Option ListingFault

namespace ReadFaults

/-- No read fails. -/
def none : ReadFaults :=
  ⟨[], Option.none⟩

instance : Inhabited ReadFaults := ⟨none⟩

/-- The failure of reading a key. -/
def failure? (faults : ReadFaults) (key : Value) : Option Failure :=
  firstValue? key faults.keys

end ReadFaults

/-- A named piece of configuration. -/
inductive Layer
  | mapping (name : Text) (entries : Entries) (faults : ReadFaults)
  | lookup (name : Text) (entries : Entries) (faults : ReadFaults)
  | composite (name : Text) (children : List Layer) (fault : Option ListingFault)

namespace Layer

instance : Inhabited Layer := ⟨composite "" [] none⟩

/-- A mapping whose reads do not fail. -/
def ofEntries (name : Text) (entries : Entries) : Layer :=
  mapping name entries ReadFaults.none

/-- A composite whose children can be listed. -/
def ofChildren (name : Text) (children : List Layer) : Layer :=
  composite name children none

def name : Layer → Text
  | mapping name _ _ => name
  | lookup name _ _ => name
  | composite name _ _ => name

/-- A failure if a value cannot serve as a key. -/
def checkKey (key : Value) : Except Failure Unit :=
  match key.unkeyable? with
  | some part => .error (.misuse (.unkeyable part.kindName))
  | none => .ok ()

/-- Reads one key of a leaf: its value, or nothing if the key is reported as absent. -/
def readKey (entries : Entries) (faults : ReadFaults) (key : Value) :
    Except Failure (Option Value) := do
  checkKey key
  match faults.failure? key with
  | some failure => if failure.isMissingKey then .ok none else .error failure
  | none => .ok (entries.get? key)

mutual

/-- The value of a key, if the layer holds it. -/
def find? (key : Value) : Layer → Except Failure (Option Value)
  | mapping _ entries faults => readKey entries faults key
  | lookup _ entries faults => readKey entries faults key
  | composite _ children fault =>
    match fault with
    | none => findIn? key children
    | some f =>
      match findUpTo? key f.after children with
      | .ok none => .error f.failure
      | other => other

/-- The value of a key in the first of some layers that holds it. -/
def findIn? (key : Value) : List Layer → Except Failure (Option Value)
  | [] => .ok none
  | child :: rest =>
    match find? key child with
    | .ok none => findIn? key rest
    | other => other

/-- The same, among the first `n` layers only. -/
def findUpTo? (key : Value) : Nat → List Layer → Except Failure (Option Value)
  | _, [] => .ok none
  | 0, _ :: _ => .ok none
  | n + 1, child :: rest =>
    match find? key child with
    | .ok none => findUpTo? key n rest
    | other => other

end

mutual

/-- Whether the layer holds a key. -/
def holds (key : Value) : Layer → Except Failure Bool
  | mapping _ entries faults => (readKey entries faults key).map Option.isSome
  | lookup _ entries faults => (readKey entries faults key).map Option.isSome
  | composite _ children fault =>
    match fault with
    | none => holdsAny key children
    | some f =>
      match holdsAnyUpTo key f.after children with
      | .ok false => .error f.failure
      | other => other

/-- Whether one of some layers holds a key. -/
def holdsAny (key : Value) : List Layer → Except Failure Bool
  | [] => .ok false
  | child :: rest =>
    match holds key child with
    | .ok false => holdsAny key rest
    | other => other

/-- The same, among the first `n` layers only. -/
def holdsAnyUpTo (key : Value) : Nat → List Layer → Except Failure Bool
  | _, [] => .ok false
  | 0, _ :: _ => .ok false
  | n + 1, child :: rest =>
    match holds key child with
    | .ok false => holdsAnyUpTo key n rest
    | other => other

end

/-- The value of a key, or a default. -/
def get (layer : Layer) (key default : Value) : Except Failure Value :=
  (layer.find? key).map fun found => found.getD default

/-- The keys of a mapping in order; an ordinary failure names the layer. -/
def keysOf (name : Text) (entries : Entries) (faults : ReadFaults) :
    Except Failure (List Value) :=
  match faults.listing with
  | none => .ok entries.keys
  | some fault =>
    if fault.failure.isOrdinary then .error (.unlistable name fault.failure.message)
    else .error fault.failure

/-- The names of the children of a composite. -/
def childNames (children : List Layer) (fault : Option ListingFault) :
    Except Failure (List Text) :=
  match fault with
  | none => .ok (children.map name)
  | some f => .error f.failure

end Layer

end LiveConfig
