import LiveConfig.Value.Basic

/-!
# Application events

Listeners are told that configuration keys changed or that scoped instances were discarded.
Both kinds of event are application events, and a listener for these receives either.

Only these three kinds can be expressed.  An application may derive further kinds of event from
them, for which a listener can be registered as well; those are left out, also in `Event.isA`.
-/

namespace LiveConfig

/-- The kinds of event a listener can be registered for, without those that an application adds. -/
inductive EventType
  | application
  | environmentChange
  | scopeRefreshed
  deriving DecidableEq

/-- A published event. -/
inductive Event
  | application
  /-- Configuration keys were added, modified or removed. -/
  | environmentChange (keys : List Value)
  /-- Scoped instances were discarded: the one of a name, or all. -/
  | scopeRefreshed (name : Option Text)

namespace EventType

def name : EventType → String
  | .application => "ApplicationEvent"
  | .environmentChange => "EnvironmentChangeEvent"
  | .scopeRefreshed => "RefreshScopeRefreshedEvent"

def ofName? : String → Option EventType
  | "ApplicationEvent" => some .application
  | "EnvironmentChangeEvent" => some .environmentChange
  | "RefreshScopeRefreshedEvent" => some .scopeRefreshed
  | _ => none

end EventType

namespace Event

/-- The kind of an event. -/
def type : Event → EventType
  | .application => .application
  | .environmentChange _ => .environmentChange
  | .scopeRefreshed _ => .scopeRefreshed

/-- Whether an event is of one of the three kinds; every event is an application event. -/
def isA (e : Event) (t : EventType) : Bool :=
  t == .application || t == e.type

end Event

end LiveConfig
