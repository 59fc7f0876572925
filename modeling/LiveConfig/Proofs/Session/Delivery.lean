import LiveConfig.Proofs.Session.Tame
import LiveConfig.Session.Step

/-!
# Deliveries

An event goes to those who are subscribed when it is published.  What is delivered is settled then:
the listeners are called one after another, each in the session that the call before has left, and
no failure, subscription or further event of one of them adds or spares another call
(`Session.deliver`).  In a tame session every delivery with room for its records is of this kind.

**Results.**
* `Act.runOn_publishWithin`: a delivery calls its receivers and logs what fails.
* `Session.told_deliver`: what is heard and logged if no listener publishes.
* `Session.publisher_delivers`: what the calls on a publisher do, in any sequence of them.
-/

namespace LiveConfig

/-! ## What is heard and logged -/

/-- The listener and the event, where a note tells that a listener was called. -/
def Note.heard? : Note → Option (Text × Event)
  | .event listener e => some (listener, e)
  | _ => none

/-- The calls of listeners, in order. -/
def Journal.heard (j : Journal) : List (Text × Event) :=
  j.notes.filterMap Note.heard?

theorem Journal.heard_append (j k : Journal) : (j ++ k).heard = j.heard ++ k.heard :=
  List.filterMap_append

theorem Journal.heard_note (j : Journal) (n : Note) :
    (j.note n).heard = j.heard ++ n.heard?.toList := by
  unfold heard note
  rw [List.filterMap_append]
  cases h : n.heard? <;> simp [h]

/-- The calls of listeners and the log of a session. -/
def Session.told (s : Session) : List (Text × Event) × List LogRecord :=
  (s.journal.heard, s.journal.log)

/-- An action that publishes nothing. -/
def ListenerAction.PublishesNothing (action : ListenerAction) : Prop :=
  ∀ event, action ≠ .publish event

/-- The failure of an outcome, if it is one. -/
def failureOf {α : Type} : Except Failure α → Option Failure
  | .ok _ => none
  | .error failure => some failure

/-- A listener that was called, and how the call failed if it did. -/
abbrev ListenerCall := Text × Option Failure

/-- The warning of a call that failed. -/
def ListenerCall.warning? (event : Event) (call : ListenerCall) : Option LogRecord :=
  call.2.map fun failure =>
    ⟨.warning, .events, Act.listenerFailureText call.1 event failure⟩

/-- Calls of listeners, and the session afterwards. -/
structure Delivery where
  calls : List ListenerCall
  session : Session

namespace Session

/-- A session with the warning of a call, if it failed. -/
def warn (s : Session) (event : Event) (call : ListenerCall) : Session :=
  { s with journal := s.journal.addRecords (call.warning? event).toList }

/-- Calls listeners with an event one after another, whatever comes of the calls. -/
def deliver (call : Text → Act Unit) (event : Event) : List Text → Session → Delivery
  | [], s => ⟨[], s⟩
  | listener :: rest, s =>
    let (outcome, t) := (call listener).runOn s
    let made : ListenerCall := (listener, failureOf outcome)
    let d := deliver call event rest (t.warn event made)
    ⟨made :: d.calls, d.session⟩

/--
Delivers an event to the receivers that there are, who may start chains of at most `n` deliveries.
-/
def delivery (s : Session) (n : Nat) (event : Event) : Delivery :=
  s.deliver (Act.callListener (Act.publishWithin n) event) event (s.publisher.receivers event)

variable {s t : Session} {call : Text → Act Unit} {event : Event} {listener : Text}

theorem warn_none (s : Session) (event : Event) (listener : Text) :
    s.warn event (listener, none) = s := by
  show { s with journal := ⟨s.journal.notes, s.journal.log ++ []⟩ } = s
  rw [List.append_nil]

/-- Every listener is called, once for each time that it stands in the list. -/
theorem map_fst_calls_deliver (listeners : List Text) (s : Session) :
    (s.deliver call event listeners).calls.map Prod.fst = listeners := by
  induction listeners generalizing s with
  | nil => rfl
  | cons listener rest ih => exact congrArg (listener :: ·) (ih _)

end Session

theorem Event.isA_eq (e : Event) (t : EventType) :
    e.isA t = decide (t = .application ∨ t = e.type) := by
  unfold Event.isA
  rw [Bool.decide_or]
  rfl

/-! ## Deliveries in tame sessions -/

namespace Act

variable {properties : PropertySource} {s : Session} {x : Act Unit}

/-- Where there is room for the record, an ordinary failure is logged and nothing else happens. -/
theorem runOn_absorbListener
    (event : Event) (listener : Text) (h : IsUninterrupted (x.runOn s).1) :
    (absorbListener true listener event x).runOn s =
      (.ok (), (x.runOn s).2.warn event (listener, failureOf (x.runOn s).1)) := by
  unfold absorbListener
  rw [runOn_tryCatch]
  generalize x.runOn s = r at h ⊢
  obtain ⟨failure | a, t⟩ := r
  · dsimp only
    rw [h failure rfl]
    rfl
  · exact congrArg (Prod.mk (Except.ok ())) (Session.warn_none t event listener).symm

theorem runOn_forM_absorbListener
    {call : Text → Act Unit} (hcall : ∀ listener, StaysTame properties (call listener))
    (event : Event) (listeners : List Text) (hs : s.TameUnder properties) :
    (listeners.forM fun listener => absorbListener true listener event (call listener)).runOn s =
      (.ok (), (s.deliver call event listeners).session) := by
  induction listeners generalizing s with
  | nil => rfl
  | cons listener rest ih =>
    obtain ⟨htame, hordinary⟩ := hcall listener s hs
    have hwarned : ((call listener).runOn s).2.warn event
        (listener, failureOf ((call listener).runOn s).1) |>.TameUnder properties :=
      ⟨htame.properties_eq, htame.listeners, htame.factories⟩
    show (absorbListener true listener event (call listener) >>= fun _ => rest.forM _).runOn s = _
    rw [runOn_bind, runOn_absorbListener event listener hordinary]
    exact ih hwarned

/-- With room for a record, a delivery calls those who are subscribed and logs what fails. -/
theorem runOn_publishWithin
    {n : Nat} (hroom : recordReserve ≤ n) (hs : s.TameUnder properties) (event : Event) :
    (publishWithin (n + 1) event).runOn s = (.ok (), (s.delivery n event).session) := by
  rw [publishWithin, runOn_bind, runOn_get, decide_eq_true hroom]
  exact runOn_forM_absorbListener (staysTame_callListener (staysTame_publishWithin n) event)
    event (s.publisher.receivers event) hs

/-! ## Listeners that publish nothing -/

theorem keeps_told_note {n : Note} (h : n.heard? = none) : Keeps Session.told (note n) := by
  intro s
  have hheard : (s.journal.note n).heard = s.journal.heard := by
    rw [Journal.heard_note, h]
    exact List.append_nil _
  exact congrArg (Prod.mk · s.journal.log) hheard

end Act

/-- A fetch logs nothing and calls no listener. -/
theorem LazyScope.told_fetchWithin
    (properties : PropertySource) (n : Nat) (name : Text) (s : LazyScope) :
    (fetchWithin properties n name s).2.journal.heard = s.journal.heard ∧
      (fetchWithin properties n name s).2.journal.log = s.journal.log := by
  induction n generalizing name s with
  | zero => exact ⟨rfl, rfl⟩
  | succ n ih =>
    unfold fetchWithin
    cases s.instances.get? name with
    | some i => exact ⟨rfl, rfl⟩
    | none =>
      cases s.registrations.get? name with
      | none => exact ⟨rfl, rfl⟩
      | some r =>
        have hcounted : (s.countCall name r).journal.heard = s.journal.heard :=
          (Journal.heard_note s.journal (.make name)).trans (List.append_nil _)
        have hfinish (x : Step Value) (hx : x.2.journal.heard = s.journal.heard ∧
            x.2.journal.log = s.journal.log) :
            (finishFetch name r x).2.journal.heard = s.journal.heard ∧
              (finishFetch name r x).2.journal.log = s.journal.log := by
          obtain ⟨failure | v, t⟩ := x
          · exact hx
          · exact hx
        dsimp only
        cases r.factory (r.calls + 1) with
        | value v => exact hfinish (.ok v, _) ⟨hcounted, rfl⟩
        | property key => exact hfinish (properties key, _) ⟨hcounted, rfl⟩
        | component other =>
          obtain ⟨hheard, hlog⟩ := ih other (s.countCall name r)
          exact hfinish (valueOf _) ⟨hheard.trans hcounted, hlog⟩
        | fail failure => exact hfinish (.error failure, _) ⟨hcounted, rfl⟩

namespace Act

theorem keeps_told_fetch (name : Text) :
    Keeps Session.told (ofScope fun properties => LazyScope.fetch properties name) := by
  intro s
  obtain ⟨hheard, hlog⟩ := LazyScope.told_fetchWithin (propertiesOf s.environment)
    LazyScope.fetchLimit name { s.scope with journal := Journal.empty }
  refine Prod.ext ?_ ?_
  · refine (Journal.heard_append s.journal _).trans ?_
    exact (congrArg (s.journal.heard ++ ·) hheard).trans (List.append_nil _)
  · exact (congrArg (s.journal.log ++ ·) hlog).trans (List.append_nil _)

theorem keeps_told_runListenerAction
    (publish : Event → Act Unit) {action : ListenerAction} (h : action.PublishesNothing) :
    Keeps Session.told (runListenerAction publish action) := by
  have hget : Keeps Session.told (get : Act Session) := fun _ => rfl
  cases action with
  | fail failure => exact fun _ => rfl
  | publish event => exact absurd rfl (h event)
  | subscribe type listener => exact fun _ => rfl
  | unsubscribe type listener => exact fun _ => rfl
  | property key =>
    refine hget.bind fun s => ?_
    have hlookup : Keeps Session.told (ofExcept (propertiesOf s.environment key)) := fun _ => rfl
    exact hlookup.bind fun v => keeps_told_note (n := .property key v) rfl
  | fetch name =>
    exact (keeps_told_fetch name).bind fun i => keeps_told_note (n := .fetched name i.value) rfl
  | ask name =>
    exact hget.bind fun s => keeps_told_note (n := .cached name (s.scope.isActive name)) rfl

/-- The one call that a listener hears is its own. -/
theorem told_callListener
    {s : Session} (publish : Event → Act Unit)
    (h : s.Confines ListenerAction.PublishesNothing) (event : Event) (listener : Text) :
    ((callListener publish event listener).runOn s).2.told =
      (s.journal.heard ++ [(listener, event)], s.journal.log) := by
  have hactions : Keeps Session.told
      (((s.listeners.get? listener).getD []).forM (runListenerAction publish)) := by
    refine Keeps.forM fun action haction => keeps_told_runListenerAction publish ?_
    cases hget : s.listeners.get? listener with
    | none =>
      rw [hget] at haction
      cases haction
    | some actions =>
      rw [hget] at haction
      exact h listener actions hget action haction
  unfold callListener
  rw [runOn_bind]
  refine (hactions _).trans (congrArg (Prod.mk · s.journal.log) ?_)
  exact Journal.heard_note s.journal (.event listener event)

end Act

/-- If no listener publishes, each call is heard once, and each failure is logged once. -/
theorem Session.told_deliver
    {s : Session} {publish : Event → Act Unit} (hpublish : ∀ e, Act.Keeps Session.bare (publish e))
    (event : Event) (listeners : List Text) (h : s.Confines ListenerAction.PublishesNothing) :
    (s.deliver (Act.callListener publish event) event listeners).session.told =
      (s.journal.heard ++ listeners.map fun listener => (listener, event),
        s.journal.log ++
          (s.deliver (Act.callListener publish event) event listeners).calls.filterMap
            (ListenerCall.warning? event)) := by
  induction listeners generalizing s with
  | nil =>
    show (_, _) = (_, _)
    simp [Session.deliver]
  | cons listener rest ih =>
    have htold := Act.told_callListener publish h event listener
    have hconfines := (Act.keeps_callListener hpublish event listener).confines h
    rw [Session.deliver]
    generalize (Act.callListener publish event listener).runOn s = r at htold hconfines
    obtain ⟨outcome, t⟩ := r
    obtain ⟨hheard, hlog⟩ := Prod.mk.inj htold
    have hwarned : (t.warn event (listener, failureOf outcome)).Confines
        ListenerAction.PublishesNothing := hconfines
    have hwarnings : (t.warn event (listener, failureOf outcome)).journal.log =
        s.journal.log ++ (ListenerCall.warning? event (listener, failureOf outcome)).toList :=
      congrArg (· ++ _) hlog
    refine (ih hwarned).trans (Prod.ext ?_ ?_)
    · show t.journal.heard ++ _ = _
      rw [hheard, List.append_assoc]
      rfl
    · dsimp only
      rw [hwarnings, List.append_assoc, List.filterMap_cons]
      cases ListenerCall.warning? event (listener, failureOf outcome) <;> rfl

/-! ## Calls on a publisher -/

/-- A call on the publisher of a session. -/
inductive PublisherCall
  | subscribe (s : Subscription)
  | unsubscribe (s : Subscription)
  | publish (event : Event)

/-- The step of a session that makes a call. -/
def PublisherCall.step : PublisherCall → SessionStep
  | .subscribe s => .subscribe s
  | .unsubscribe s => .unsubscribe s
  | .publish event => .publish event

namespace Session

/-- The session after some calls on its publisher. -/
def afterCalls (r : Refresher) : List PublisherCall → Session → Session
  | [], s => s
  | call :: rest, s => afterCalls r rest ((run r call.step).runOn s).2

variable {properties : PropertySource} {allowed : ListenerAction → Prop} {s t : Session}

theorem keeps_step (r : Refresher) (call : PublisherCall) : Act.Keeps bare (run r call.step) := by
  cases call with
  | subscribe sub => exact fun _ => rfl
  | unsubscribe sub => exact fun _ => rfl
  | publish event => exact (Act.keeps_publish event).bind fun _ _ => rfl

theorem staysTame_step (r : Refresher) (call : PublisherCall) :
    Act.StaysTame properties (run r call.step) := by
  cases call with
  | subscribe sub =>
    intro s hs
    exact ⟨⟨hs.properties_eq, hs.listeners, hs.factories⟩, .ok _⟩
  | unsubscribe sub =>
    intro s hs
    exact ⟨⟨hs.properties_eq, hs.listeners, hs.factories⟩, .ok _⟩
  | publish event =>
    exact (Act.staysTame_publish event).bind fun _ s hs => ⟨hs, .ok _⟩

theorem TameUnder.afterCalls (r : Refresher) (calls : List PublisherCall)
    (h : s.TameUnder properties) : (Session.afterCalls r calls s).TameUnder properties := by
  induction calls generalizing s with
  | nil => exact h
  | cons call rest ih => exact ih (staysTame_step r call s h).1

theorem Confines.afterCalls (r : Refresher) (calls : List PublisherCall)
    (h : s.Confines allowed) : (Session.afterCalls r calls s).Confines allowed := by
  induction calls generalizing s with
  | nil => exact h
  | cons call rest ih => exact ih ((keeps_step r call).confines h)

theorem runOn_publish (r : Refresher) (h : s.TameUnder properties) (event : Event) :
    (run r (.publish event)).runOn s =
      (.ok .nothing, (s.delivery (Act.publishLimit - 1) event).session) := by
  have hrun : (Act.publish event).runOn s =
      (.ok (), (s.delivery (Act.publishLimit - 1) event).session) :=
    Act.runOn_publishWithin (by decide) h event
  show (Act.publish event >>= fun _ => pure SessionAnswer.nothing).runOn s = _
  rw [Act.runOn_bind, hrun]
  rfl

/-- Taking a registration away that there is takes the oldest one. -/
theorem runOn_unsubscribe_of_eq
    (r : Refresher) {sub : Subscription} {before after : List Subscription}
    (h : s.publisher.subscriptions = before ++ sub :: after) (hbefore : sub ∉ before) :
    (run r (.unsubscribe sub)).runOn s =
      (.ok (.truth true), { s with publisher := ⟨before ++ after⟩ }) := by
  have hknown : s.publisher.isSubscribed sub = true := by
    rw [Publisher.isSubscribed, h]
    simp
  have herase : s.publisher.unsubscribe sub = ⟨before ++ after⟩ := by
    rw [Publisher.unsubscribe, h, List.erase_append_right _ hbefore, List.erase_cons_head]
  show (Except.ok (SessionAnswer.truth (s.publisher.isSubscribed sub)),
    { s with publisher := s.publisher.unsubscribe sub }) = _
  rw [hknown, herase]

theorem runOn_unsubscribe_of_not_mem
    (r : Refresher) {sub : Subscription} (h : sub ∉ s.publisher.subscriptions) :
    (run r (.unsubscribe sub)).runOn s = (.ok (.truth false), s) := by
  have hknown : s.publisher.isSubscribed sub = false := by
    rw [Publisher.isSubscribed, List.contains_eq_mem]
    exact decide_eq_false h
  have herase : s.publisher.unsubscribe sub = s.publisher := by
    rw [Publisher.unsubscribe, List.erase_of_not_mem h]
  show (Except.ok (SessionAnswer.truth (s.publisher.isSubscribed sub)),
    { s with publisher := s.publisher.unsubscribe sub }) = _
  rw [hknown, herase]

theorem told_delivery
    (n : Nat) (event : Event) (h : s.Confines ListenerAction.PublishesNothing) :
    (s.delivery n event).session.told =
      (s.journal.heard ++ (s.publisher.receivers event).map fun listener => (listener, event),
        s.journal.log ++ (s.delivery n event).calls.filterMap (ListenerCall.warning? event)) :=
  told_deliver (Act.keeps_publishWithin n) event (s.publisher.receivers event) h

/--
**Deliveries are complete, in order and isolated.**  Let nothing that listeners do be an
interruption.  Then after any calls on the publisher a delivery does not fail, and within a chain of
deliveries it does not as long as there is room for records.  It calls exactly the listeners that are
registered for the kind of the event, or for all events, when it begins, once for each registration
and in the order of subscribing, each in the session that the call before has left; and it logs one
warning for each call that fails.  If no listener publishes, nothing else is heard or logged.

Subscribing adds a registration at the end.  Unsubscribing is answered with yes if and only if there
is such a registration, and takes the oldest one away.
-/
theorem publisher_delivers
    (r : Refresher) (s : Session) (h : s.Tame) (calls : List PublisherCall) :
    let t := s.afterCalls r calls
    (∀ event, (run r (.publish event)).runOn t =
      (.ok .nothing, (t.delivery (Act.publishLimit - 1) event).session)) ∧
    (∀ n event, Act.recordReserve ≤ n →
      (Act.publishWithin (n + 1) event).runOn t = (.ok (), (t.delivery n event).session) ∧
      (t.delivery n event).calls.map Prod.fst =
        (t.publisher.subscriptions.filter fun sub =>
          sub.type = .application ∨ sub.type = event.type).map Subscription.listener ∧
      (s.Confines ListenerAction.PublishesNothing →
        (t.delivery n event).session.journal.heard =
          t.journal.heard ++ (t.delivery n event).calls.map (fun call => (call.1, event)) ∧
        (t.delivery n event).session.journal.log =
          t.journal.log ++ (t.delivery n event).calls.filterMap (ListenerCall.warning? event))) ∧
    (∀ sub, (run r (.subscribe sub)).runOn t =
      (.ok .nothing, { t with publisher := ⟨t.publisher.subscriptions ++ [sub]⟩ })) ∧
    (∀ sub, sub ∉ t.publisher.subscriptions →
      (run r (.unsubscribe sub)).runOn t = (.ok (.truth false), t)) ∧
    ∀ sub before after, t.publisher.subscriptions = before ++ sub :: after → sub ∉ before →
      (run r (.unsubscribe sub)).runOn t =
        (.ok (.truth true), { t with publisher := ⟨before ++ after⟩ }) := by
  intro t
  have htame : t.TameUnder (Act.propertiesOf s.environment) := TameUnder.afterCalls r calls h
  refine ⟨runOn_publish r htame, fun n event hroom => ?_, fun sub => rfl,
    fun sub => runOn_unsubscribe_of_not_mem r, fun sub before after => runOn_unsubscribe_of_eq r⟩
  have hcalls : (t.delivery n event).calls.map Prod.fst = t.publisher.receivers event :=
    map_fst_calls_deliver _ t
  refine ⟨Act.runOn_publishWithin hroom htame event, hcalls.trans ?_, fun hquiet => ?_⟩
  · simp only [Publisher.receivers, Event.isA_eq]
  · obtain ⟨hheard, hlog⟩ := Prod.mk.inj (told_delivery n event (hquiet.afterCalls r calls))
    refine ⟨hheard.trans ?_, hlog⟩
    have hmap : (t.delivery n event).calls.map (fun call => (call.1, event)) =
        ((t.delivery n event).calls.map Prod.fst).map fun listener => (listener, event) := by
      rw [List.map_map]
      rfl
    rw [hmap, hcalls]

/-! ## An example -/

/-- A refresher, which no call on the publisher asks for anything. -/
def idleRefresher : Refresher :=
  ⟨.usual, fun _ s => (⟨Tracking.empty, .error .tooDeep⟩, s), true, .recording⟩

/-- One listener takes another one away, brings a third one in, and fails; the second one fails. -/
def meddlingListeners : Table Text (List ListenerAction) :=
  Table.ofList
    [(⟨[.char 'a']⟩, [.unsubscribe .application ⟨[.char 'b']⟩,
        .subscribe .environmentChange ⟨[.char 'c']⟩, .fail (.raised .value ⟨[.char 'x']⟩)]),
      (⟨[.char 'b']⟩, [.fail (.raised .runtime ⟨[.char 'y']⟩)])]

def meddledSession : Session :=
  { (default : Session) with listeners := meddlingListeners }

/-- The first listener, the second one twice, and one that is not concerned. -/
def meddledCalls : List PublisherCall :=
  [.subscribe ⟨.environmentChange, ⟨[.char 'a']⟩⟩, .subscribe ⟨.application, ⟨[.char 'b']⟩⟩,
    .subscribe ⟨.scopeRefreshed, ⟨[.char 'c']⟩⟩, .subscribe ⟨.application, ⟨[.char 'b']⟩⟩]

theorem tame_meddledSession :
    meddledSession.Tame ∧ meddledSession.Confines ListenerAction.PublishesNothing := by
  have hactions (name : Text) (actions : List ListenerAction)
      (h : meddledSession.listeners.get? name = some actions) (a : ListenerAction)
      (ha : a ∈ actions) :
      a.IsTame (Act.propertiesOf meddledSession.environment) ∧ a.PublishesNothing := by
    obtain ⟨name', hmem, -⟩ := exists_mem_of_firstValue? h
    have hentries : meddledSession.listeners.entries =
        [(⟨[.char 'a']⟩, [.unsubscribe .application ⟨[.char 'b']⟩,
            .subscribe .environmentChange ⟨[.char 'c']⟩, .fail (.raised .value ⟨[.char 'x']⟩)]),
          (⟨[.char 'b']⟩, [.fail (.raised .runtime ⟨[.char 'y']⟩)])] := rfl
    simp only [hentries, List.mem_cons, Prod.mk.injEq, List.not_mem_nil, or_false] at hmem
    rcases hmem with ⟨-, rfl⟩ | ⟨-, rfl⟩
    all_goals simp only [List.mem_cons, List.not_mem_nil, or_false] at ha
    · rcases ha with rfl | rfl | rfl
      · exact ⟨trivial, fun _ => nofun⟩
      · exact ⟨trivial, fun _ => nofun⟩
      · exact ⟨rfl, fun _ => nofun⟩
    · obtain rfl := ha
      exact ⟨rfl, fun _ => nofun⟩
  exact ⟨⟨rfl, fun name actions h a ha => (hactions name actions h a ha).1, fun _ _ _ h => nomatch h⟩,
    fun name actions h a ha => (hactions name actions h a ha).2⟩

/-- Both calls of the second listener are made, and one of its registrations is left. -/
theorem publisher_delivers_meddled :
    meddledSession.Tame ∧ meddledSession.Confines ListenerAction.PublishesNothing ∧
    Act.recordReserve ≤ Act.publishLimit - 1 ∧
    let t := meddledSession.afterCalls idleRefresher meddledCalls
    let u := ((run idleRefresher (.publish (.environmentChange []))).runOn t).2
    u.journal.heard =
      [(⟨[.char 'a']⟩, .environmentChange []), (⟨[.char 'b']⟩, .environmentChange []),
        (⟨[.char 'b']⟩, .environmentChange [])] ∧
    u.journal.log.length = 3 ∧
    u.publisher.subscriptions =
      [⟨.environmentChange, ⟨[.char 'a']⟩⟩, ⟨.scopeRefreshed, ⟨[.char 'c']⟩⟩,
        ⟨.application, ⟨[.char 'b']⟩⟩, ⟨.environmentChange, ⟨[.char 'c']⟩⟩] ∧
    ((run idleRefresher (.unsubscribe ⟨.application, ⟨[.char 'b']⟩⟩)).runOn t) =
      (.ok (.truth true), { t with publisher :=
        ⟨[⟨.environmentChange, ⟨[.char 'a']⟩⟩, ⟨.scopeRefreshed, ⟨[.char 'c']⟩⟩,
          ⟨.application, ⟨[.char 'b']⟩⟩]⟩ }) := by
  obtain ⟨htame, hquiet⟩ := tame_meddledSession
  obtain ⟨hpublish, hdelivery, -, -, htaken⟩ :=
    publisher_delivers idleRefresher meddledSession htame meddledCalls
  have hroom : Act.recordReserve ≤ Act.publishLimit - 1 := by decide
  obtain ⟨-, -, htold⟩ := hdelivery (Act.publishLimit - 1) (.environmentChange []) hroom
  obtain ⟨hheard, hlog⟩ := htold hquiet
  refine ⟨htame, hquiet, hroom, ?_⟩
  intro t u
  have hu : u = (t.delivery (Act.publishLimit - 1) (.environmentChange [])).session :=
    congrArg Prod.snd (hpublish (.environmentChange []))
  refine ⟨?_, ?_, rfl, htaken _ [⟨.environmentChange, ⟨[.char 'a']⟩⟩] _ rfl (by decide)⟩
  · rw [hu, hheard]
    rfl
  · rw [hu, hlog]
    rfl

end Session

end LiveConfig
