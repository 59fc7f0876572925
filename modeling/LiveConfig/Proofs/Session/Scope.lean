import LiveConfig.Proofs.Scope.Moves
import LiveConfig.Proofs.Session.Journal
import LiveConfig.Proofs.Session.Listening
import LiveConfig.Session.Step

/-!
# Calls to the scope of a session

A call to the scope of a session is one of the moves of a scope.  Where listeners do not fetch, all
that they add when a refresh is published are notes of their own.  What a call returns, what it has
built and what it has discarded is read off the session before and the session after it.

**Results.**
* `ScopeTurn.exists_runOn_refresh`, `ScopeTurn.exists_runOn_refreshAll`: a refresh publishes one
  event when it has discarded what it had to.
* `ScopeTurn.exists_moves`: a call is one of the moves of a scope.
-/

namespace LiveConfig

namespace ScopeCall

/-- Makes a call in a session whose scope publishes its events or not. -/
def run (publishes : Bool) : ScopeCall → Act ScopeAnswer
  | register name factory destroy => do
    Act.ofScope fun properties => LazyScope.register properties name factory destroy
    return .nothing
  | fetch name => do
    let i ← Act.ofScope fun properties => LazyScope.fetch properties name
    return .instance i
  | refresh name => do
    let b ← Act.refreshInstance publishes name
    return .discarded b
  | refreshAll => do
    Act.refreshInstances publishes
    return .nothing

/-- The step of a session that makes a call. -/
def step : ScopeCall → SessionStep
  | register name factory destroy => .register name factory destroy
  | fetch name => .fetch name
  | refresh name => .refreshInstance name
  | refreshAll => .refreshInstances

end ScopeCall

/-- What a step of a session shows of an answer. -/
def ScopeAnswer.shown : ScopeAnswer → SessionAnswer
  | nothing => .nothing
  | .instance i => .value i.value
  | discarded b => .truth b

/-- A step of a session makes the call and shows its answer. -/
theorem ScopeCall.run_step (r : Refresher) (call : ScopeCall) :
    Session.run r call.step =
      call.run (Session.scopePublishes r.scope) >>= fun answer => pure answer.shown := by
  cases call with
  | register | fetch | refresh | refreshAll =>
    simp only [step, Session.run, run, bind_assoc, pure_bind]
    rfl

/-- A call and the session in which it is made. -/
structure ScopeTurn where
  session : Session
  call : ScopeCall

namespace ScopeTurn

/-- How a call comes out, and the session after it. -/
def result (publishes : Bool) (c : ScopeTurn) : Except Failure ScopeAnswer × Session :=
  (c.call.run publishes).runOn c.session

def answer (publishes : Bool) (c : ScopeTurn) : Except Failure ScopeAnswer :=
  (c.result publishes).1

def after (publishes : Bool) (c : ScopeTurn) : Session :=
  (c.result publishes).2

/-- What is noted during a call. -/
def notes (publishes : Bool) (c : ScopeTurn) : List Note :=
  (c.after publishes).journal.notes.drop c.session.journal.notes.length

/-- The instance that a call returns. -/
def fetched (publishes : Bool) (c : ScopeTurn) : List (Text × Instance) :=
  match c.call, c.answer publishes with
  | .fetch name, .ok (.instance i) => [(name, i)]
  | _, _ => []

/-- The instance that a call has its factory build. -/
def built (publishes : Bool) (c : ScopeTurn) : List (Text × Instance) :=
  if (c.notes publishes).any Note.isMake then c.fetched publishes else []

/-- The instances that a call discards. -/
def discarded (publishes : Bool) (c : ScopeTurn) : List (Text × Instance) :=
  c.session.scope.discarded (c.after publishes).scope

/-- What is registered is quiet, and no listener fetches an instance when a refresh is published. -/
structure Proper (publishes : Bool) (c : ScopeTurn) : Prop where
  quiet : c.call.IsQuiet
  confined : publishes = true → c.session.Confines fun a => ∀ name, a ≠ .fetch name

end ScopeTurn

/-! ## Listeners that do not touch the scope -/

/-- Nothing has happened but that listeners noted something. -/
def Session.HeardOnly (s t : Session) : Prop :=
  t.scope = s.scope ∧
    ∃ rest, t.journal.notes = s.journal.notes ++ rest ∧ ∀ n ∈ rest, n.isOfListener = true

/-- Listeners that do not fetch leave the scope alone. -/
theorem Session.lasts_heardOnly :
    Act.Lasts (fun a => ∀ name, a ≠ .fetch name) Session.HeardOnly where
  goes :=
    { refl := fun s => ⟨rfl, [], (List.append_nil _).symm, fun _ hn => nomatch hn⟩
      trans := by
        rintro s t u ⟨hscope, rest, hnotes, hrest⟩ ⟨hscope', rest', hnotes', hrest'⟩
        refine ⟨hscope'.trans hscope, rest ++ rest', ?_, fun n hn => ?_⟩
        · rw [hnotes', hnotes, List.append_assoc]
        · exact (List.mem_append.mp hn).elim (hrest n) (hrest' n) }
  note s n hn := ⟨rfl, [n], rfl, fun m hm => List.mem_singleton.mp hm ▸ hn⟩
  record s level channel text := ⟨rfl, [], (List.append_nil _).symm, fun _ hn => nomatch hn⟩
  publisher s p := ⟨rfl, [], (List.append_nil _).symm, fun _ hn => nomatch hn⟩
  fetch s name h := absurd rfl (h name)

/-! ## What a call does in a session -/

/-- A session with another scope, and with something noted and logged of it. -/
def Session.scoped (s : Session) (scope : LazyScope) (own : List Note) (log : List LogRecord) :
    Session :=
  { s with scope := scope, journal := s.journal ++ ⟨own, log⟩ }

theorem Session.confines_scoped
    {s : Session} {scope : LazyScope} {own : List Note} {log : List LogRecord}
    {allowed : ListenerAction → Prop} :
    (s.scoped scope own log).Confines allowed ↔ s.Confines allowed := Iff.rfl

namespace Act

open LazyScope

/-- Work with a scope is done by the scope alone. -/
theorem runOn_ofScope_eq
    {α : Type} {f : PropertySource → LazyScope → LazyScope.Step α} {s : Session}
    {outcome : Except Failure α} {t : LazyScope} {own : List Note} {log : List LogRecord}
    (hs : s.scope.journal = Journal.empty) (ht : t.journal = Journal.empty)
    (hf : f (propertiesOf s.environment) s.scope =
      (outcome, { t with journal := ⟨s.scope.journal.notes ++ own, log⟩ })) :
    (ofScope f).runOn s = (outcome, s.scoped t own log) := by
  have hsilent : ({ s.scope with journal := Journal.empty } : LazyScope) = s.scope := by
    rw [← hs]
  have hrun : (ofScope f).runOn s =
      ((f (propertiesOf s.environment) { s.scope with journal := Journal.empty }).1,
        s.scoped (f (propertiesOf s.environment) { s.scope with journal := Journal.empty }).2.silent
          (f (propertiesOf s.environment) { s.scope with journal := Journal.empty }).2.journal.notes
          (f (propertiesOf s.environment)
            { s.scope with journal := Journal.empty }).2.journal.log) := rfl
  have hafter : ({ t with journal := Journal.empty } : LazyScope) = t := by
    rw [← ht]
  rw [hrun, hsilent, hf, hs]
  unfold silent
  rw [hafter]
  rfl

variable {s : Session} (hs : s.scope.Sound)
include hs

theorem exists_runOn_discard (name : Text) :
    ∃ log, (ofScope fun properties => LazyScope.discard properties name).runOn s =
      (.ok (s.scope.isActive name), s.scoped (s.scope.drop name)
        ((s.scope.instanceOf name).flatMap s.scope.destroyNotes) log) := by
  obtain ⟨log, hdiscard⟩ := exists_discard (propertiesOf s.environment) hs.quiet name
  exact ⟨log, runOn_ofScope_eq hs.silent hs.silent hdiscard⟩

theorem exists_runOn_clear :
    ∃ log, (ofScope LazyScope.clear).runOn s =
      (.ok (), s.scoped { s.scope with instances := Table.empty }
        (s.scope.instances.entries.flatMap s.scope.destroyNotes) log) := by
  obtain ⟨log, hclear⟩ := exists_clear (propertiesOf s.environment) hs.quiet
  exact ⟨log, runOn_ofScope_eq hs.silent hs.silent hclear⟩

theorem exists_runOn_register (name : Text) (factory : Nat → Recipe)
    (destroy : Option (List DestroyAction)) :
    ∃ t own log,
      (ofScope fun properties => LazyScope.register properties name factory destroy).runOn s =
        (.ok (), s.scoped t own log) ∧
      ScopeMove s.scope (.register name factory destroy) (.ok .nothing) own t := by
  obtain ⟨log, hregister⟩ :=
    exists_register (propertiesOf s.environment) hs.quiet name factory destroy
  let r : Registration := ⟨s.scope.registered + 1, factory, destroy, 0⟩
  let t : LazyScope :=
    { s.scope.drop name with
      registrations := s.scope.registrations.insert name r
      registered := s.scope.registered + 1 }
  exact ⟨t, _, log, runOn_ofScope_eq (t := t) hs.silent hs.silent hregister,
    .registered name factory destroy⟩

theorem exists_runOn_fetch (name : Text) :
    ∃ outcome t own log,
      (ofScope fun properties => LazyScope.fetch properties name).runOn s =
        (outcome, s.scoped t own log) ∧
      ScopeMove s.scope (.fetch name) (outcome.map ScopeAnswer.instance) own t := by
  obtain ⟨outcome, t, own, log, hfetch, hmove⟩ :=
    exists_fetch hs (propertiesOf s.environment) name
  exact ⟨outcome, t, own, log,
    runOn_ofScope_eq hs.silent (hmove.journal_eq hs.silent) hfetch, hmove⟩

end Act

namespace ScopeTurn

open LazyScope

variable {publishes : Bool} {s : Session}

/-- Publishing is heard only, if it happens at all. -/
theorem heardOnly_publishIf
    (h : publishes = true → s.Confines fun a => ∀ name, a ≠ .fetch name) (event : Event) :
    s.HeardOnly ((Act.publishIf publishes event).runOn s).2 := by
  cases publishes with
  | true => exact Session.lasts_heardOnly.publish (h rfl) event
  | false => exact Session.lasts_heardOnly.goes.refl s

/-- An answer that is given at the end changes nothing. -/
theorem runOn_bind_pure (x : Act Unit) (answer : ScopeAnswer) (s : Session) :
    ((x >>= fun _ => pure answer).runOn s).2 = (x.runOn s).2 := by
  rw [Act.runOn_bind]
  generalize x.runOn s = r
  obtain ⟨failure | _, t⟩ := r
  · rfl
  · rfl

/-- A refresh of a name without an instance does nothing at all. -/
theorem runOn_refresh_of_absent (publishes : Bool) (hs : s.scope.Sound) {name : Text}
    (h : s.scope.isActive name = false) :
    ((ScopeCall.refresh name).run publishes).runOn s = (.ok (.discarded false), s) := by
  have hnone : s.scope.instances.get? name = none := by
    simpa [isActive, Table.contains] using h
  have hdiscard : LazyScope.discard (Act.propertiesOf s.environment) name s.scope =
      (.ok false, { s.scope with
        journal := ⟨s.scope.journal.notes ++ [], s.scope.journal.log⟩ }) := by
    unfold LazyScope.discard
    rw [hnone, List.append_nil]
  have hrun := Act.runOn_ofScope_eq
    (f := fun properties => LazyScope.discard properties name) hs.silent hs.silent hdiscard
  have hsame : s.scoped s.scope [] s.scope.journal.log = s := by
    unfold Session.scoped
    rw [hs.silent]
    exact congrArg (fun j => { s with journal := j }) (Journal.append_empty s.journal)
  unfold ScopeCall.run Act.refreshInstance
  simp only [Act.runOn_bind, hrun, hsame]
  rfl

/-- A refresh of a name discards its instance, publishes one event and says so. -/
theorem exists_runOn_refresh (publishes : Bool) (hs : s.scope.Sound) {name : Text}
    (h : s.scope.isActive name = true) :
    ∃ log, ((ScopeCall.refresh name).run publishes).runOn s =
      (Act.publishIf publishes (.scopeRefreshed (some name)) >>= fun _ =>
        pure (ScopeAnswer.discarded true)).runOn
        (s.scoped (s.scope.drop name)
          ((s.scope.instanceOf name).flatMap s.scope.destroyNotes) log) := by
  obtain ⟨log, hrun⟩ := Act.exists_runOn_discard hs name
  rw [h] at hrun
  refine ⟨log, ?_⟩
  unfold ScopeCall.run Act.refreshInstance
  simp only [bind_assoc]
  rw [Act.runOn_bind, hrun]
  simp only [if_true, bind_assoc, pure_bind]

/-- A refresh of all names discards all instances and publishes one event. -/
theorem exists_runOn_refreshAll (publishes : Bool) (hs : s.scope.Sound) :
    ∃ log, (ScopeCall.refreshAll.run publishes).runOn s =
      (Act.publishIf publishes (.scopeRefreshed none) >>= fun _ =>
        pure ScopeAnswer.nothing).runOn
        (s.scoped { s.scope with instances := Table.empty }
          (s.scope.instances.entries.flatMap s.scope.destroyNotes) log) := by
  obtain ⟨log, hrun⟩ := Act.exists_runOn_clear hs
  refine ⟨log, ?_⟩
  unfold ScopeCall.run Act.refreshInstances
  simp only [bind_assoc]
  rw [Act.runOn_bind, hrun]

variable {c : ScopeTurn}

/-- What a scope noted itself comes first, and what its listeners noted after it. -/
structure Moves (publishes : Bool) (c : ScopeTurn) (own rest : List Note) : Prop where
  move : ScopeMove c.session.scope c.call (c.answer publishes) own (c.after publishes).scope
  notes_eq : c.notes publishes = own ++ rest
  heard : ∀ n ∈ rest, n.isOfListener = true

theorem exists_moves_of_heardOnly (t : LazyScope) (own : List Note) (log : List LogRecord)
    (hmove : ScopeMove c.session.scope c.call (c.answer publishes) own t)
    (hheard : (c.session.scoped t own log).HeardOnly (c.after publishes)) :
    ∃ own rest, c.Moves publishes own rest := by
  obtain ⟨hscope, rest, hnotes, hrest⟩ := hheard
  refine ⟨own, rest, hscope ▸ hmove, ?_, hrest⟩
  have hall : (c.after publishes).journal.notes = c.session.journal.notes ++ (own ++ rest) :=
    hnotes.trans (List.append_assoc _ _ _)
  rw [notes, hall]
  exact List.drop_left

/-- A call is one of the moves of a scope. -/
theorem exists_moves (hc : c.Proper publishes) (hs : c.session.scope.Sound) :
    ∃ own rest, c.Moves publishes own rest := by
  have hrefl := Session.lasts_heardOnly.goes.refl
  obtain ⟨s, call⟩ := c
  cases call with
  | register name factory destroy =>
    obtain ⟨t, own, log, hrun, hmove⟩ := Act.exists_runOn_register hs name factory destroy
    have hresult : result publishes ⟨s, .register name factory destroy⟩ =
        (.ok .nothing, s.scoped t own log) := by
      unfold result ScopeCall.run
      rw [Act.runOn_bind, hrun]
      rfl
    refine exists_moves_of_heardOnly t own log ?_ ?_
    · rw [answer, hresult]
      exact hmove
    · rw [after, hresult]
      exact hrefl _
  | fetch name =>
    obtain ⟨outcome, t, own, log, hrun, hmove⟩ := Act.exists_runOn_fetch hs name
    have hresult : result publishes ⟨s, .fetch name⟩ =
        (outcome.map ScopeAnswer.instance, s.scoped t own log) := by
      unfold result ScopeCall.run
      rw [Act.runOn_bind, hrun]
      cases outcome <;> rfl
    refine exists_moves_of_heardOnly t own log ?_ ?_
    · rw [answer, hresult]
      exact hmove
    · rw [after, hresult]
      exact hrefl _
  | refresh name =>
    cases hactive : s.scope.isActive name with
    | false =>
      have hnone : s.scope.instances.get? name = none := by
        simpa [isActive, Table.contains] using hactive
      have hsame : s.scope.drop name = s.scope := by
        unfold drop
        rw [Table.erase_of_get? hnone]
      have hmove := ScopeMove.refreshed (s := s.scope) name
        (answer publishes ⟨s, .refresh name⟩)
      have hown : s.scope.instanceOf name = [] := by
        rw [instanceOf, hnone]
        rfl
      rw [hsame, hown] at hmove
      refine exists_moves_of_heardOnly _ _ [] hmove ?_
      rw [after, result, runOn_refresh_of_absent publishes hs hactive]
      refine ⟨rfl, [], ?_, List.forall_mem_nil _⟩
      simp [Session.scoped, Journal.append_def]
    | true =>
      obtain ⟨log, hrun⟩ := exists_runOn_refresh publishes hs hactive
      refine exists_moves_of_heardOnly _ _ log (.refreshed name _) ?_
      rw [after, result, hrun, runOn_bind_pure]
      exact heardOnly_publishIf (fun hp => Session.confines_scoped.mpr (hc.confined hp)) _
  | refreshAll =>
    obtain ⟨log, hrun⟩ := exists_runOn_refreshAll publishes hs
    refine exists_moves_of_heardOnly _ _ log (.cleared _) ?_
    rw [after, result, hrun, runOn_bind_pure]
    exact heardOnly_publishIf (fun hp => Session.confines_scoped.mpr (hc.confined hp)) _

/-! ## What a call fetches and builds -/

variable {own rest : List Note} {e : Text × Instance}

theorem mem_fetched :
    e ∈ c.fetched publishes ↔
      c.call = .fetch e.1 ∧ c.answer publishes = .ok (.instance e.2) := by
  unfold fetched
  split
  · rename_i name i hcall hanswer
    rw [hcall, hanswer, List.mem_singleton]
    constructor
    · rintro rfl
      exact ⟨rfl, rfl⟩
    · rintro ⟨hname, hi⟩
      exact Prod.ext (ScopeCall.fetch.inj hname).symm
        (ScopeAnswer.instance.inj (Except.ok.inj hi)).symm
  · rename_i hother
    refine ⟨fun he => absurd he List.not_mem_nil, fun h => ?_⟩
    exact (hother e.1 e.2 h.1 h.2).elim

theorem mem_fetched_of_mem_built (he : e ∈ c.built publishes) : e ∈ c.fetched publishes := by
  unfold built at he
  split at he
  · exact he
  · cases he

namespace Moves

variable (h : c.Moves publishes own rest)
include h

/-- Listeners note no call of a factory or a destroy callback. -/
theorem filter_notes {p : Note → Bool} (hp : ∀ n, n.isOfListener = true → p n = false) :
    (c.notes publishes).filter p = own.filter p := by
  have hrest : rest.filter p = [] := by
    refine List.filter_eq_nil_iff.mpr fun n hn htrue => ?_
    rw [hp n (h.heard n hn)] at htrue
    cases htrue
  rw [h.notes_eq, List.filter_append, hrest, List.append_nil]

theorem get?_of_fetched (he : e ∈ c.fetched publishes) :
    (c.after publishes).scope.instances.get? e.1 = some e.2 := by
  obtain ⟨hcall, hanswer⟩ := mem_fetched.mp he
  have hmove := h.move
  rw [hcall, hanswer] at hmove
  exact hmove.get?_of_fetched

/-- What a call has its factory build is what the scope has new afterwards. -/
theorem mem_built_iff :
    e ∈ c.built publishes ↔
      ScopeMove.Builds c.session.scope c.call (c.answer publishes) own (c.after publishes).scope
        e.1 e.2 := by
  have hmade : (c.notes publishes).any Note.isMake = own.any Note.isMake := by
    have hrest : rest.any Note.isMake = false := by
      refine List.any_eq_false.mpr fun n hn => Bool.eq_false_iff.mp ?_
      have hheard := h.heard n hn
      cases n <;> first | rfl | cases hheard
    rw [h.notes_eq, List.any_append, hrest, Bool.or_false]
  constructor
  · intro he
    obtain ⟨hcall, hanswer⟩ := mem_fetched.mp (mem_fetched_of_mem_built he)
    have hmake : own.any Note.isMake = true := by
      rw [← hmade]
      unfold built at he
      split at he
      · assumption
      · cases he
    have hmove := h.move
    rw [hcall, hanswer] at hmove ⊢
    exact hmove.builds_of_make hmake
  · intro hbuilds
    have hany : (c.notes publishes).any Note.isMake = true := by
      rw [hmade, hbuilds.notes_eq]
      rfl
    unfold built
    rw [if_pos hany]
    exact mem_fetched.mpr ⟨hbuilds.call_eq, hbuilds.answer_eq⟩

/-- What a call discards, its destroy callbacks are called with. -/
theorem destroyNotes_discarded :
    (c.notes publishes).filter Note.isDestroy =
      (c.discarded publishes).flatMap c.session.scope.destroyNotes := by
  have hlistener : ∀ n : Note, n.isOfListener = true → n.isDestroy = false := by
    intro n hn
    cases n <;> first | rfl | cases hn
  rw [h.filter_notes hlistener]
  exact h.move.destroyNotes_discarded

end Moves

end ScopeTurn

end LiveConfig
