import LiveConfig.Failure

/-!
# Flat keys

`flatten` turns a nested map into one table from paths to leaves.  A path joins the keys with
dots and appends the index of a list item in brackets.  Leaves are all values but non-empty maps
and non-empty lists, so that no key of the map is lost.  A key that cannot be written has no path.

Flattening calls itself for what lies inside a value.  `flatten` does so without end;
`flattenOnStack` does it on a stack, and fails for a value that lies too deep.
-/

namespace LiveConfig.Value

/-- A value in its plain form, unless it cannot be written. -/
def written (v : Value) : Except Failure Text :=
  if v.isWritable then .ok v.display else .error .longNumber

/-! ## Values in full -/

/-- How many collections inside one another are written: the stack has no room for more. -/
def writingLimit : Nat := 985

mutual

/-- Why a value cannot be written with so many levels, for the first part that is to blame. -/
def unwritable? (levels : Nat) : Value → Option Failure
  | .list items | .tuple items =>
    match levels with
    | 0 => some .tooDeep
    | levels + 1 => unwritableAmong? levels items
  | .map entries =>
    match levels with
    | 0 => some .tooDeep
    | levels + 1 => unwritableIn? levels entries
  | v => if v.isWritable then none else some .longNumber

def unwritableAmong? (levels : Nat) : List Value → Option Failure
  | [] => none
  | x :: xs => (unwritable? levels x).or (unwritableAmong? levels xs)

def unwritableIn? (levels : Nat) : List (Value × Value) → Option Failure
  | [] => none
  | (k, x) :: es =>
    if k.isWritable then (unwritable? levels x).or (unwritableIn? levels es)
    else some .longNumber

end

/-- A value in its plain form, with all that it contains. -/
def inFull (v : Value) : Except Failure Text :=
  match v.unwritable? writingLimit with
  | some failure => .error failure
  | none => .ok v.display

/-! ## Paths -/

/-- The path of a map entry. -/
def entryPath (base : Text) (key : Value) : Except Failure Text :=
  key.written.map fun name => if base.isEmpty then name else base ++ "." ++ name

/-- The path of a list item. -/
def itemPath (base : Text) (index : Nat) : Text :=
  base ++ "[" ++ toString index ++ "]"

/-! ## Flattening -/

mutual

/-- Writes the leaves of a value at a path into a table. -/
def flattenInto (path : Text) (table : Entries) : Value → Except Failure Entries
  | .map (e :: es) => (flattenEntries path Table.empty (e :: es)).map table.update
  | .list (x :: xs) => flattenItems path 0 table (x :: xs)
  | v => .ok (table.insert (.str path) v)

/-- Writes the leaves of map entries below a path into a table. -/
def flattenEntries (base : Text) (table : Entries) :
    List (Value × Value) → Except Failure Entries
  | [] => .ok table
  | (key, x) :: es => do
    let path ← entryPath base key
    let table ← flattenInto path table x
    flattenEntries base table es

/-- Writes the leaves of list items below a path into a table, counting from an index. -/
def flattenItems (base : Text) (index : Nat) (table : Entries) :
    List Value → Except Failure Entries
  | [] => .ok table
  | x :: xs => do
    let table ← flattenInto (itemPath base index) table x
    flattenItems base (index + 1) table xs

end

/-- The leaves of map entries by path. -/
def flatten (entries : List (Value × Value)) (base : Text) : Except Failure Entries :=
  flattenEntries base Table.empty entries

/-! ## Flattening on a stack -/

/-- What flattening does that may fail. -/
inductive FlatteningStep
  /-- A key is written. -/
  | key (key : Value)
  /-- A value is looked at, in a call inside so many calls. -/
  | visit (calls : Nat)

/--
How many calls inside one another flattening may make: the stack has no room for more, with what
called it and with the tests of the value that is looked at.
-/
def flatteningRoom : Nat := 990

/-- The failure of a step. -/
def FlatteningStep.failure? : FlatteningStep → Option Failure
  | .key k => if k.isWritable then none else some .longNumber
  | .visit calls => if calls ≤ flatteningRoom then none else some .endless

mutual

/--
The steps of flattening a value that is looked at in a certain call, in their order.  The entries of
a map are flattened by one call more, which makes another one for each value.
-/
def flatteningSteps (calls : Nat) : Value → List FlatteningStep
  | .map (e :: es) => .visit calls :: stepsOfEntries (calls + 2) (e :: es)
  | .list (x :: xs) => .visit calls :: stepsOfItems (calls + 1) (x :: xs)
  | _ => [.visit calls]

/-- The same for map entries whose values are looked at in a certain call. -/
def stepsOfEntries (calls : Nat) : List (Value × Value) → List FlatteningStep
  | [] => []
  | (key, x) :: es => .key key :: (flatteningSteps calls x ++ stepsOfEntries calls es)

/-- The same for list items. -/
def stepsOfItems (calls : Nat) : List Value → List FlatteningStep
  | [] => []
  | x :: xs => flatteningSteps calls x ++ stepsOfItems calls xs

end

/-- The leaves of map entries by path, or the failure of the first step that fails. -/
def flattenOnStack (entries : List (Value × Value)) : Except Failure Entries :=
  match (stepsOfEntries 2 entries).findSome? FlatteningStep.failure? with
  | some failure => .error failure
  | none => flatten entries ""

end LiveConfig.Value
