import LiveConfig.Failure

/-!
# Log records and computations that log

A `Traced` computation ends with a value or a failure and carries the records that it logged on
the way, in order; what was logged before a failure is kept.
-/

namespace LiveConfig

/-- The level of a record; `unset` is below all others. -/
inductive LogLevel
  | unset
  | debug
  | info
  | warning
  | error
  | critical
  deriving DecidableEq

namespace LogLevel

def rank : LogLevel → Nat
  | .unset => 0
  | .debug => 10
  | .info => 20
  | .warning => 30
  | .error => 40
  | .critical => 50

def name : LogLevel → String
  | .unset => "NOTSET"
  | .debug => "DEBUG"
  | .info => "INFO"
  | .warning => "WARNING"
  | .error => "ERROR"
  | .critical => "CRITICAL"

/-- The level of a name in capitals. -/
def ofName? : String → Option LogLevel
  | "NOTSET" => some .unset
  | "DEBUG" => some .debug
  | "INFO" => some .info
  | "WARN" | "WARNING" => some .warning
  | "ERROR" => some .error
  | "CRITICAL" | "FATAL" => some .critical
  | _ => none

end LogLevel

/-- The part of the program that logs. -/
inductive LogChannel
  | extraction
  | merging
  | refreshing
  | scope
  | events
  | release
  | files
  deriving DecidableEq

/-- The name of a channel in log lines. -/
def LogChannel.name : LogChannel → String
  | .extraction => "rekindle.core.extract"
  | .merging => "rekindle.core.reconcile"
  | .refreshing => "rekindle.core.refresher"
  | .scope => "rekindle.context.scope"
  | .events => "rekindle.context.events"
  | .release => "rekindle.bootstrap.base"
  | .files => "rekindle.bootstrap.files"

/-- One log record. -/
structure LogRecord where
  level : LogLevel
  channel : LogChannel
  text : Text

namespace LogRecord

/-- The record as a line, without line end. -/
def line (r : LogRecord) : Text :=
  r.level.name ++ " " ++ r.channel.name ++ ": " ++ r.text

/-- Whether a record reaches a level. -/
def reaches (r : LogRecord) (level : LogLevel) : Bool :=
  decide (level.rank ≤ r.level.rank)

end LogRecord

/-- The lines of the records that reach a level. -/
def logLines (level : LogLevel) (records : List LogRecord) : List Text :=
  (records.filter (·.reaches level)).map LogRecord.line

/-- An outcome with the records logged on the way to it. -/
structure Traced (α : Type) where
  outcome : Except Failure α
  log : List LogRecord

namespace Traced

variable {α β : Type}

def pure (a : α) : Traced α :=
  ⟨.ok a, []⟩

def bind (x : Traced α) (f : α → Traced β) : Traced β :=
  match x.outcome with
  | .ok a => ⟨(f a).outcome, x.log ++ (f a).log⟩
  | .error e => ⟨.error e, x.log⟩

instance : Monad Traced where
  pure := pure
  bind := bind

/-- Logs one record. -/
def record (level : LogLevel) (channel : LogChannel) (text : Text) : Traced Unit :=
  ⟨.ok (), [⟨level, channel, text⟩]⟩

/-- An outcome with nothing logged. -/
def ofExcept (x : Except Failure α) : Traced α :=
  ⟨x, []⟩

@[simp]
theorem bind_ok {a : α} {log : List LogRecord} (f : α → Traced β) :
    (Traced.mk (.ok a) log >>= f) = ⟨(f a).outcome, log ++ (f a).log⟩ := rfl

@[simp]
theorem bind_error {e : Failure} {log : List LogRecord} (f : α → Traced β) :
    (Traced.mk (.error e) log >>= f) = ⟨.error e, log⟩ := rfl

end Traced

end LiveConfig
