import LiveConfig.Value.Basic

/-!
# Numbers of values from several documents

A document tells its not-a-numbers and the collections that contain themselves apart by numbers from
one on.  To tell those of several documents apart, each document gets numbers of its own.
-/

namespace LiveConfig.Value

mutual

/-- Numbers all not-a-numbers and collections that come up again from another number on. -/
def numberFrom (first : Nat) : Value → Value
  | .float x => .float (x.numberFrom first)
  | .list items => .list (numberAllFrom first items)
  | .tuple items => .tuple (numberAllFrom first items)
  | .map entries => .map (numberEntriesFrom first entries)
  | .set members => .set (numberAllFrom first members)
  | .again form number between => .again form (first + (number - 1)) between
  | v => v

def numberAllFrom (first : Nat) : List Value → List Value
  | [] => []
  | x :: xs => numberFrom first x :: numberAllFrom first xs

def numberEntriesFrom (first : Nat) : List (Value × Value) → List (Value × Value)
  | [] => []
  | (k, x) :: es => (numberFrom first k, numberFrom first x) :: numberEntriesFrom first es

end

end LiveConfig.Value
