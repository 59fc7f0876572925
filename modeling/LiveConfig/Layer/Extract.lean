import LiveConfig.Layer.Basic
import LiveConfig.Log

/-!
# Snapshots of layers

`extract` flattens layers, highest precedence first, into one table of effective values.  The
layers are written one after another from the last to the first, so that a layer of higher
precedence overwrites the values of those below it.

Extraction is best effort.  A top-level mapping that cannot be listed or read is left out, a
lookup is left out everywhere, and a composite stops contributing at the point of failure: the
children written before stay.
-/

namespace LiveConfig

/-- A snapshot under construction: what has been written, and the failure that stopped it. -/
structure Extraction where
  snapshot : Entries
  stopped : Option Failure
  log : List LogRecord

namespace Extraction

def ofSnapshot (snapshot : Entries) : Extraction :=
  ⟨snapshot, none, []⟩

/-- Goes on from the snapshot unless the extraction has stopped. -/
def andThen (x : Extraction) (f : Entries → Extraction) : Extraction :=
  match x.stopped with
  | some _ => x
  | none =>
    let y := f x.snapshot
    ⟨y.snapshot, y.stopped, x.log ++ y.log⟩

/-- Turns an ordinary stop into a log record. -/
def absorb (x : Extraction) (text : Failure → Text) : Extraction :=
  match x.stopped with
  | some e =>
    if e.isOrdinary then ⟨x.snapshot, none, x.log ++ [⟨.debug, .extraction, text e⟩]⟩ else x
  | none => x

end Extraction

namespace Layer

/-- The failure of reading one listed key, an ordinary one naming the layer. -/
def entryFailure? (name : Text) (faults : ReadFaults) (key : Value) : Option Failure :=
  (faults.failure? key).map fun failure =>
    if failure.isOrdinary then .unlistable name failure.message else failure

/-- All entries of a mapping, if its keys can be listed and every one of them read. -/
def readAll (name : Text) (entries : Entries) (faults : ReadFaults) :
    Except Failure (List (Value × Value)) := do
  let _ ← keysOf name entries faults
  match entries.entries.findSome? fun e => entryFailure? name faults e.1 with
  | some failure => .error failure
  | none => .ok entries.entries

/-- Writes the entries of a mapping into a snapshot. -/
def writeMapping (name : Text) (entries : Entries) (faults : ReadFaults)
    (snapshot : Entries) : Extraction :=
  match readAll name entries faults with
  | .ok es => Extraction.ofSnapshot (snapshot.insertAll es)
  | .error e => ⟨snapshot, some e, []⟩

/-- The record of a composite that stopped. -/
def stoppedText (name : Text) (e : Failure) : Text :=
  "Stopped extracting composite layer " ++ name ++ ": " ++ e.message

mutual

/-- Writes a layer inside a composite into a snapshot. -/
def writeInto : Layer → Entries → Extraction
  | mapping name entries faults, snapshot => writeMapping name entries faults snapshot
  | lookup _ _ _, snapshot => Extraction.ofSnapshot snapshot
  | composite name children fault, snapshot =>
    match fault with
    | some f => Extraction.absorb ⟨snapshot, some f.failure, []⟩ (stoppedText name)
    | none => (writeAllInto children snapshot).absorb (stoppedText name)

/-- Writes layers inside a composite into a snapshot, the last one first. -/
def writeAllInto : List Layer → Entries → Extraction
  | [], snapshot => Extraction.ofSnapshot snapshot
  | child :: rest, snapshot => (writeAllInto rest snapshot).andThen (writeInto child)

end

/-- Writes a top-level layer into a snapshot. -/
def writeTop (layer : Layer) (snapshot : Entries) : Extraction :=
  match layer with
  | mapping name _ _ =>
    (layer.writeInto snapshot).absorb fun e => "Skipping layer " ++ name ++ ": " ++ e.message
  | lookup name _ _ =>
    ⟨snapshot, none, [⟨.debug, .extraction, "Skipping non-enumerable layer " ++ name⟩]⟩
  | composite _ _ _ => layer.writeInto snapshot

/-- Writes top-level layers that are not excluded into a snapshot, the last one first. -/
def writeTops (excluded : List Text) : List Layer → Entries → Extraction
  | [], snapshot => Extraction.ofSnapshot snapshot
  | layer :: rest, snapshot =>
    (writeTops excluded rest snapshot).andThen fun s =>
      if excluded.contains layer.name then Extraction.ofSnapshot s else layer.writeTop s

end Layer

/-- The effective values of layers, highest precedence first. -/
def extract (excluded : List Text) (layers : List Layer) : Traced Entries :=
  let x := Layer.writeTops excluded layers Table.empty
  match x.stopped with
  | none => ⟨.ok x.snapshot, x.log⟩
  | some e => ⟨.error e, x.log⟩

end LiveConfig
