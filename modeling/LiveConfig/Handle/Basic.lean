import LiveConfig.Journal

/-!
# Handles on resources

What a bootstrap allocates is represented by handles, which may have parents.  Closing a handle
runs its close callbacks, the one registered last first; it does not close the parent.  Every
callback runs even if another one fails, and the first ordinary failure is reported at the end.
An interruption ends the closing at once.

A callback is a finite list of actions, which may close other handles and register further
callbacks.  A handle is marked as closed before its callbacks run, so closings that are nested
in each other concern different handles, and the number of open handles bounds their depth.

What happens to the handles is kept as a history of closings and of callbacks that started.
-/

namespace LiveConfig

/-- What a close callback can do. -/
inductive CloseAction
  | say (items : List Value)
  | fail (failure : Failure)
  | close (handle : Nat)
  /-- Notes whether a handle is closed. -/
  | ask (handle : Nat)
  | onClose (handle : Nat) (callback : List CloseAction)

/-- A closable handle. -/
structure Handle where
  name : Text
  parent : Option Nat
  callbacks : List (List CloseAction)
  closed : Bool

namespace Handle

instance : Inhabited Handle := ⟨⟨"", none, [], false⟩⟩

/-- An open handle. -/
def make (name : Text) (parent : Option Nat) (callbacks : List (List CloseAction)) : Handle :=
  ⟨name, parent, callbacks, false⟩

def markClosed (h : Handle) : Handle :=
  { h with closed := true }

def clearCallbacks (h : Handle) : Handle :=
  { h with callbacks := [] }

def register (callback : List CloseAction) (h : Handle) : Handle :=
  { h with callbacks := h.callbacks ++ [callback] }

end Handle

/-- What happens to a handle. -/
inductive HandleEvent
  | closed (handle : Nat)
  /-- The callback at a position of a handle's callbacks started. -/
  | started (handle position : Nat)
  deriving DecidableEq

/-- All handles of a run by their numbers, what happened to them, and what was noted. -/
structure Handles where
  handles : List Handle
  history : List HandleEvent
  journal : Journal

/-- What closing leads to: the handles afterwards, and the failure that is reported. -/
abbrev Closing := Handles × Option Failure

namespace Handles

instance : Inhabited Handles := ⟨⟨[], [], Journal.empty⟩⟩

def ofList (handles : List Handle) : Handles :=
  ⟨handles, [], Journal.empty⟩

def get? (s : Handles) (i : Nat) : Option Handle :=
  s.handles[i]?

/-- Changes one handle. -/
def modify (s : Handles) (i : Nat) (f : Handle → Handle) : Handles :=
  { s with handles := s.handles.modify i f }

/-- Adds to the history. -/
def recordEvent (s : Handles) (e : HandleEvent) : Handles :=
  { s with history := s.history ++ [e] }

/-- Marks a handle as closed. -/
def markClosed (s : Handles) (i : Nat) : Handles :=
  (s.modify i Handle.markClosed).recordEvent (.closed i)

def note (s : Handles) (n : Note) : Handles :=
  { s with journal := s.journal.note n }

/-- Adds a handle and gives its number. -/
def push (s : Handles) (h : Handle) : Handles × Nat :=
  ({ s with handles := s.handles ++ [h] }, s.handles.length)

/-- The number of open handles. -/
def openCount (s : Handles) : Nat :=
  s.handles.countP fun h => !h.closed

/-- Registers a close callback. -/
def onClose (s : Handles) (i : Nat) (callback : List CloseAction) : Handles :=
  s.modify i (Handle.register callback)

/-- Sets the parent of a handle. -/
def setParent (s : Handles) (i : Nat) (parent : Option Nat) : Handles :=
  s.modify i fun h => { h with parent := parent }

/-- A handle as shown in messages. -/
def shown (s : Handles) (i : Nat) : String :=
  match s.get? i with
  | none => ""
  | some h =>
    let parent :=
      match h.parent.bind s.get? with
      | none => "None"
      | some p => Text.quoted p.name
    "BootstrapContext(" ++ Text.quoted h.name ++ ", parent=" ++ parent ++ ", closed=" ++
      (if h.closed then "True" else "False") ++ ")"

/-- Runs the actions of a callback up to the first failure, given a way to close handles. -/
def runActions (close : Nat → Handles → Closing) : List CloseAction → Handles → Closing
  | [], s => (s, none)
  | .say items :: rest, s => runActions close rest (s.note (.said items))
  | .fail failure :: _, s => (s, some failure)
  | .close i :: rest, s =>
    match close i s with
    | (s, none) => runActions close rest s
    | (s, some failure) => (s, some failure)
  | .ask i :: rest, s =>
    match s.get? i with
    | none => runActions close rest s
    | some h => runActions close rest (s.note (.handle h.name h.closed))
  | .onClose i callback :: rest, s => runActions close rest (s.onClose i callback)

/-- Runs callbacks of a handle, given with their positions, keeping the first ordinary failure. -/
def runCallbacks (close : Nat → Handles → Closing) (i : Nat) :
    List (List CloseAction × Nat) → Option Failure → Handles → Closing
  | [], first, s => (s, first)
  | (callback, position) :: rest, first, s =>
    match runActions close callback (s.recordEvent (.started i position)) with
    | (s, none) => runCallbacks close i rest first s
    | (s, some failure) =>
      if failure.isOrdinary then runCallbacks close i rest (first.or (some failure)) s
      else (s, some failure)

/-- Forgets the callbacks of a handle unless its closing was interrupted. -/
def finish (i : Nat) : Closing → Closing
  | (s, none) => (s.modify i Handle.clearCallbacks, none)
  | (s, some failure) =>
    if failure.isOrdinary then (s.modify i Handle.clearCallbacks, some failure)
    else (s, some failure)

/-- Closes a handle when at most `n` handles are open; with none open there is nothing to do. -/
def closeWithin : Nat → Nat → Handles → Closing
  | 0, _, s => (s, none)
  | n + 1, i, s =>
    match s.get? i with
    | none => (s, none)
    | some h =>
      if h.closed then (s, none)
      else
        finish i
          (runCallbacks (closeWithin n) i h.callbacks.zipIdx.reverse none (s.markClosed i))

/-- Closes a handle; closing it again does nothing. -/
def close (i : Nat) (s : Handles) : Closing :=
  closeWithin s.openCount i s

end Handles

end LiveConfig
