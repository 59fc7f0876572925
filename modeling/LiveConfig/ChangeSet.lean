import LiveConfig.Failure
import LiveConfig.Value.Comparison

/-!
# Change sets

`changes before after` maps every key whose value differs to its new value, and every key that
is gone to the removed mark.  Keys of the first snapshot come first, in its order, then the
added ones in the order of the second.  Null equals null only; all other values are compared
as values, and the first comparison that fails ends the whole.
-/

namespace LiveConfig

/-- Whether two values differ, null being equal to itself only. -/
def differ? (old new : Value) : Except Failure Bool :=
  match old, new with
  | .null, .null => .ok false
  | .null, _ => .ok true
  | _, .null => .ok true
  | old, new =>
    match old.equal? new with
    | .ok equal => .ok !equal
    | .error (.flawed reason) => .error (.incomparable reason)
    | .error .endless => .error .endless

/-- What became of the keys of some entries of the earlier snapshot. -/
def changedEntries (after : Entries) :
    List (Value × Value) → Except Failure (List (Value × Value))
  | [] => .ok []
  | (key, old) :: rest =>
    match after.get? key with
    | none => (changedEntries after rest).map ((key, .removed) :: ·)
    | some new =>
      match differ? old new with
      | .error e => .error e
      | .ok true => (changedEntries after rest).map ((key, new) :: ·)
      | .ok false => changedEntries after rest

/-- The entries whose keys the earlier snapshot does not have. -/
def addedEntries (before : Entries) (entries : List (Value × Value)) : List (Value × Value) :=
  entries.filter fun e => !before.contains e.1

/-- The change set between two snapshots. -/
def changes (before after : Entries) : Except Failure Entries := do
  let changed ← changedEntries after before.entries
  return Table.ofList (changed ++ addedEntries before after.entries)

end LiveConfig
