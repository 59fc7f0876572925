import LiveConfig.Journal

/-!
# Scopes of lazily built instances

Components register a factory under a name.  An instance is built when it is first fetched and
is kept until it is discarded; the next fetch builds it anew.  A factory decides by the number
of its call what to do.  A discarded instance is handed to the destroy actions of its
registration, whose ordinary failures are logged.

A factory may fetch other instances, so fetching is recursive; a chain of fetches that is too
long fails.

Registrations are numbered, and so are the instances in the order in which they were completed.
An instance knows the registration that built it, so that equal values built at different times
are told apart.
-/

namespace LiveConfig

/-- What a factory does in one call. -/
inductive Recipe
  | value (v : Value)
  /-- Takes the value of a configuration property. -/
  | property (key : Value)
  /-- Takes another instance. -/
  | component (name : Text)
  | fail (failure : Failure)

/-- What happens with a discarded instance, one action after another. -/
inductive DestroyAction
  | fail (failure : Failure)
  /-- Fetches another instance. -/
  | fetch (name : Text)
  /-- Asks whether another instance is there. -/
  | ask (name : Text)

/-- A registered component. -/
structure Registration where
  /-- The number of the registration, counted from one. -/
  number : Nat
  /-- What the factory does in its calls, counted from one. -/
  factory : Nat → Recipe
  destroy : Option (List DestroyAction)
  /-- How often the factory was called. -/
  calls : Nat

/-- What a factory built. -/
structure Instance where
  /-- The number of the instance, counted from one. -/
  number : Nat
  /-- The number of the registration that built it. -/
  builder : Nat
  value : Value

/-- Registrations and instances by name, how many there were, and what was noted on the way. -/
structure LazyScope where
  registrations : Table Text Registration
  instances : Table Text Instance
  /-- How many registrations there were. -/
  registered : Nat
  /-- How many instances were built. -/
  built : Nat
  journal : Journal

/-- A way to look up configuration properties. -/
abbrev PropertySource := Value → Except Failure Value

namespace LazyScope

/-- The scope without registrations. -/
def empty : LazyScope :=
  ⟨Table.empty, Table.empty, 0, 0, Journal.empty⟩

instance : Inhabited LazyScope := ⟨empty⟩

def note (s : LazyScope) (n : Note) : LazyScope :=
  { s with journal := s.journal.note n }

/-- Whether there is an instance of a name. -/
def isActive (s : LazyScope) (name : Text) : Bool :=
  s.instances.contains name

/-- The registered names in order. -/
def names (s : LazyScope) : List Text :=
  s.registrations.keys

/-- Keeps an instance, the next one to be completed. -/
def keep (s : LazyScope) (name : Text) (i : Instance) : LazyScope :=
  { s with instances := s.instances.insert name i, built := i.number }

/-- The next instance to be completed. -/
def nextInstance (s : LazyScope) (r : Registration) (v : Value) : Instance :=
  ⟨s.built + 1, r.number, v⟩

/-- Takes an instance away. -/
def drop (s : LazyScope) (name : Text) : LazyScope :=
  { s with instances := s.instances.erase name }

/-- Counts and notes a call of the factory of a registration. -/
def countCall (s : LazyScope) (name : Text) (r : Registration) : LazyScope :=
  let registrations := s.registrations.insert name { r with calls := r.calls + 1 }
  ({ s with registrations := registrations }).note (.make name)

/-- An outcome and the scope afterwards. -/
abbrev Step (α : Type) := Except Failure α × LazyScope

/-- Keeps the instance that a factory built, if it did. -/
def finishFetch (name : Text) (r : Registration) : Step Value → Step Instance
  | (.ok v, s) => (.ok (s.nextInstance r v), s.keep name (s.nextInstance r v))
  | (.error e, s) => (.error e, s)

/-- The value of a fetched instance. -/
def valueOf : Step Instance → Step Value
  | (outcome, s) => (outcome.map Instance.value, s)

/-- Fetches an instance through a chain of at most `n` fetches. -/
def fetchWithin (properties : PropertySource) : Nat → Text → LazyScope → Step Instance
  | 0, _, s => (.error .tooDeep, s)
  | n + 1, name, s =>
    match s.instances.get? name with
    | some i => (.ok i, s)
    | none =>
      match s.registrations.get? name with
      | none => (.error (.missingKey (.str name)), s)
      | some r =>
        let s := s.countCall name r
        finishFetch name r
          (match r.factory (r.calls + 1) with
          | .value v => (.ok v, s)
          | .property key => (properties key, s)
          | .component other => valueOf (fetchWithin properties n other s)
          | .fail failure => (.error failure, s))

/-- The length of the longest chain of fetches. -/
def fetchLimit : Nat := 497

/-- Fetches an instance, building it if it is not there. -/
def fetch (properties : PropertySource) (name : Text) (s : LazyScope) : Step Instance :=
  fetchWithin properties fetchLimit name s

/-! ## Discarding -/

/-- Runs destroy actions up to the first failure. -/
def runDestroy (properties : PropertySource) : List DestroyAction → LazyScope → Step Unit
  | [], s => (.ok (), s)
  | .fail failure :: _, s => (.error failure, s)
  | .fetch name :: rest, s =>
    match fetch properties name s with
    | (.error e, s) => (.error e, s)
    | (.ok i, s) => runDestroy properties rest (s.note (.got name i.value))
  | .ask name :: rest, s => runDestroy properties rest (s.note (.active name (s.isActive name)))

/-- The record of an instance whose destroy actions failed. -/
def destroyFailureText (name : Text) (failure : Failure) : Text :=
  "Failed to destroy refresh-scoped instance " ++ name ++ ": " ++ failure.message

/-- Logs an ordinary failure of destroy actions. -/
def absorbDestroy (name : Text) : Step Unit → Step Unit
  | (.ok (), s) => (.ok (), s)
  | (.error e, s) =>
    if e.isOrdinary then
      (.ok (), { s with
        journal := s.journal.record .warning .scope (destroyFailureText name e) })
    else (.error e, s)

/-- Discards the instance of a name and tells whether there was one. -/
def discard (properties : PropertySource) (name : Text) (s : LazyScope) : Step Bool :=
  match s.instances.get? name with
  | none => (.ok false, s)
  | some i =>
    let s := s.drop name
    match (s.registrations.get? name).bind Registration.destroy with
    | none => (.ok true, s)
    | some actions =>
      let s := s.note (.destroy name i.value)
      match absorbDestroy name (runDestroy properties actions s) with
      | (.ok (), s) => (.ok true, s)
      | (.error e, s) => (.error e, s)

/-- Discards the instances of some names. -/
def discardAll (properties : PropertySource) : List Text → LazyScope → Step Unit
  | [], s => (.ok (), s)
  | name :: rest, s =>
    match discard properties name s with
    | (.ok _, s) => discardAll properties rest s
    | (.error e, s) => (.error e, s)

/-- Discards the instances that are there. -/
def clear (properties : PropertySource) (s : LazyScope) : Step Unit :=
  discardAll properties s.instances.keys s

/-- Registers a component and discards the instance of a former one. -/
def register (properties : PropertySource) (name : Text) (factory : Nat → Recipe)
    (destroy : Option (List DestroyAction)) (s : LazyScope) : Step Unit :=
  match discard properties name s with
  | (.error e, s) => (.error e, s)
  | (.ok _, s) =>
    let r : Registration := ⟨s.registered + 1, factory, destroy, 0⟩
    (.ok (), { s with
      registrations := s.registrations.insert name r
      registered := r.number })

end LazyScope

end LiveConfig
