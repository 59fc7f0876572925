import LiveConfig.Event
import LiveConfig.Layer.Basic
import LiveConfig.Log

/-!
# What collaborators note down

Listeners, factories, close callbacks and bootstraps note what they see and do.  The notes of a
run stand in the order in which they were made.
-/

namespace LiveConfig

/-- One note. -/
inductive Note
  /-- Free items said by a close callback. -/
  | said (items : List Value)
  /-- Whether a handle was closed when a close callback asked. -/
  | handle (name : Text) (closed : Bool)
  /-- A bootstrap was asked for. -/
  | request (names active defaults : List Text) (overrides : Layer)
  /-- The layers that a bootstrap built. -/
  | fresh (names : List Text)
  /-- A listener received an event. -/
  | event (listener : Text) (event : Event)
  /-- A listener looked a property up. -/
  | property (key value : Value)
  /-- A listener fetched an instance. -/
  | fetched (name : Text) (value : Value)
  /-- A listener asked for a cached instance. -/
  | cached (name : Text) (active : Bool)
  /-- A factory was called. -/
  | make (name : Text)
  /-- A destroy callback was called with the discarded instance. -/
  | destroy (name : Text) (value : Value)
  /-- A destroy callback fetched another instance. -/
  | got (name : Text) (value : Value)
  /-- A destroy callback asked for another cached instance. -/
  | active (name : Text) (active : Bool)
  /-- A recording scope was told to refresh. -/
  | refreshAll

/-- Notes and log records of a run, in order. -/
structure Journal where
  notes : List Note
  log : List LogRecord

namespace Journal

def empty : Journal := ⟨[], []⟩

instance : Inhabited Journal := ⟨empty⟩

def note (j : Journal) (n : Note) : Journal :=
  { j with notes := j.notes ++ [n] }

def record (j : Journal) (level : LogLevel) (channel : LogChannel) (text : Text) : Journal :=
  { j with log := j.log ++ [⟨level, channel, text⟩] }

/-- Adds records. -/
def addRecords (j : Journal) (log : List LogRecord) : Journal :=
  { j with log := j.log ++ log }

/-- One journal after the other. -/
def append (j k : Journal) : Journal :=
  ⟨j.notes ++ k.notes, j.log ++ k.log⟩

instance : Append Journal := ⟨append⟩

end Journal

end LiveConfig
