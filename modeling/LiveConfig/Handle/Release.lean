import LiveConfig.Handle.Basic

/-!
# Releasing handles

Releasing a handle closes it and then its ancestors, up to the first one seen before.  A handle
that fails to close is logged and the walk goes on, so releasing fails only by an interruption.
-/

namespace LiveConfig

/-- What releasing leads to: the handles afterwards, those that failed, and an interruption. -/
structure Release where
  handles : Handles
  failed : List Nat
  interrupted : Option Failure

namespace Handles

/-- The record of a handle that failed to close. -/
def releaseFailureText (name : Text) (failure : Failure) : Text :=
  "Failed to release bootstrap context " ++ name ++ ": " ++ failure.message

def recordReleaseFailure (s : Handles) (name : Text) (failure : Failure) : Handles :=
  { s with
    journal := s.journal.record .warning .release (releaseFailureText name failure) }

/--
Walks from a handle to its ancestors, closing each, until a handle comes up that was seen
before.  Seen handles are different numbers below the number of handles, which bounds the walk.
-/
def releaseFrom : Nat → List Nat → Option Nat → Handles → List Nat → Release
  | 0, _, _, s, failed => ⟨s, failed, none⟩
  | _ + 1, _, none, s, failed => ⟨s, failed, none⟩
  | n + 1, seen, some i, s, failed =>
    if seen.contains i then ⟨s, failed, none⟩
    else
      match s.get? i with
      | none => ⟨s, failed, none⟩
      | some h =>
        match s.close i with
        | (s, none) => releaseFrom n (i :: seen) ((s.get? i).bind Handle.parent) s failed
        | (s, some failure) =>
          if failure.isOrdinary then
            let s := s.recordReleaseFailure h.name failure
            releaseFrom n (i :: seen) ((s.get? i).bind Handle.parent) s (failed ++ [i])
          else ⟨s, failed, some failure⟩

/-- Closes a handle and all its ancestors. -/
def releaseChain (i : Option Nat) (s : Handles) : Release :=
  releaseFrom (s.handles.length + 1) [] i s []

/-- Releases several chains one after another, up to an interruption. -/
def releaseAll : List (Option Nat) → Handles → Closing
  | [], s => (s, none)
  | i :: rest, s =>
    let r := s.releaseChain i
    match r.interrupted with
    | none => releaseAll rest r.handles
    | some failure => (r.handles, some failure)

end Handles

end LiveConfig
