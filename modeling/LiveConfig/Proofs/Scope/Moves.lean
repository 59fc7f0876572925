import LiveConfig.Proofs.Scope.Basic

/-!
# What calls do to a scope

Four calls change a scope: registering a component, fetching an instance, refreshing one name and
refreshing all.  Where all components are quiet, seven things can happen, and all that is said of a
scope is read off these.

An instance is known by its number, and the number of a new one is above all numbers before.  What
is not there any more can therefore not come back: its number is used up.

**Results.**
* `ScopeMove.sound`: what every scope satisfies is kept up by every call.
* `ScopeMove.origin`: an instance that is there was there before or has just been built.
* `ScopeMove.destroyNotes_discarded`: destroy callbacks are called for what is discarded, once each.
* `ScopeMove.gone`: a number that is used up stays used up.
-/

namespace LiveConfig

/-- A call to a scope. -/
inductive ScopeCall
  | register (name : Text) (factory : Nat → Recipe) (destroy : Option (List DestroyAction))
  | fetch (name : Text)
  | refresh (name : Text)
  | refreshAll

/-- The answer to a call. -/
inductive ScopeAnswer
  | nothing
  | instance (i : Instance)
  /-- Whether an instance was discarded. -/
  | discarded (b : Bool)

/-- Whether a note is the call of a factory. -/
def Note.isMake : Note → Bool
  | .make _ => true
  | _ => false

/-- Whether a note is the call of a destroy callback. -/
def Note.isDestroy : Note → Bool
  | .destroy .. => true
  | _ => false

namespace ScopeCall

/-- What is registered does not call back into the scope. -/
def IsQuiet : ScopeCall → Prop
  | register _ factory destroy => Registration.IsQuiet ⟨0, factory, destroy, 0⟩
  | _ => True

end ScopeCall

namespace LazyScope

/-- The instances of one scope that are not those of another. -/
def discarded (s t : LazyScope) : List (Text × Instance) :=
  s.instances.entries.filter fun e =>
    !(t.instances.get? e.1).any fun i => i.number == e.2.number

/-- A number that has been used and is not in use. -/
structure Gone (s : LazyScope) (number : Nat) : Prop where
  used : number ≤ s.built
  absent : ∀ name i, s.instances.get? name = some i → i.number ≠ number

/-- What holds of every scope with quiet components. -/
structure Sound (s : LazyScope) : Prop where
  quiet : s.IsQuiet
  silent : s.journal = Journal.empty
  /-- An instance was built by the component that is registered for its name. -/
  current : ∀ name i, s.instances.get? name = some i →
    ∃ r, s.components.get? name = some r ∧ r.number = i.builder
  numbered : ∀ name i, s.instances.get? name = some i → i.number ≤ s.built
  distinct : ∀ name i other j, s.instances.get? name = some i → s.instances.get? other = some j →
    i.number = j.number → name = other

end LazyScope

/-- What a call does to a scope, with its answer and what is noted of the scope itself. -/
inductive ScopeMove (s : LazyScope) :
    ScopeCall → Except Failure ScopeAnswer → List Note → LazyScope → Prop
  | registered (name : Text) (factory : Nat → Recipe) (destroy : Option (List DestroyAction)) :
      ScopeMove s (.register name factory destroy) (.ok .nothing)
        ((s.instanceOf name).flatMap s.destroyNotes)
        { s.drop name with
          registrations := s.registrations.insert name ⟨s.registered + 1, factory, destroy, 0⟩
          registered := s.registered + 1 }
  | cached (name : Text) {i : Instance} :
      s.instances.get? name = some i →
      ScopeMove s (.fetch name) (.ok (.instance i)) [] s
  | unknown (name : Text) :
      s.instances.get? name = none →
      s.registrations.get? name = none →
      ScopeMove s (.fetch name) (.error (.missingKey (.str name))) [] s
  | failed (name : Text) {r : Registration} (failure : Failure) :
      s.instances.get? name = none →
      s.registrations.get? name = some r →
      ScopeMove s (.fetch name) (.error failure) [.make name] (s.countCall name r).silent
  | built (name : Text) {r : Registration} (v : Value) :
      s.instances.get? name = none →
      s.registrations.get? name = some r →
      ScopeMove s (.fetch name) (.ok (.instance (s.nextInstance r v))) [.make name]
        ((s.countCall name r).keep name (s.nextInstance r v)).silent
  | refreshed (name : Text) (answer : Except Failure ScopeAnswer) :
      ScopeMove s (.refresh name) answer ((s.instanceOf name).flatMap s.destroyNotes) (s.drop name)
  | cleared (answer : Except Failure ScopeAnswer) :
      ScopeMove s .refreshAll answer (s.instances.entries.flatMap s.destroyNotes)
        { s with instances := Table.empty }

namespace LazyScope

variable {s t : LazyScope} {name : Text} {r : Registration} {i : Instance}

/-! ## Looking up after a change -/

theorem get?_components (s : LazyScope) (name : Text) :
    s.components.get? name = (s.registrations.get? name).map Registration.uncalled :=
  firstValue?_map Registration.uncalled name s.registrations.entries

/-- Whether components are quiet does not depend on the counts of their calls. -/
theorem isQuiet_iff : s.IsQuiet ↔ ∀ name r, s.components.get? name = some r → r.IsQuiet := by
  constructor
  · intro h name r hr
    rw [get?_components] at hr
    obtain ⟨r', hr', rfl⟩ := Option.map_eq_some_iff.mp hr
    exact ⟨(h name r' hr').factory, (h name r' hr').destroy⟩
  · intro h name r hr
    have hquiet := h name r.uncalled (by rw [get?_components, hr]; rfl)
    exact ⟨hquiet.factory, hquiet.destroy⟩

theorem get?_drop_eq_some_iff {other : Text} :
    (s.drop other).instances.get? name = some i ↔
      other ≠ name ∧ s.instances.get? name = some i := by
  have hget : (s.drop other).instances.get? name =
      if other == name then none else s.instances.get? name := Table.get?_erase _ _ _
  rw [hget]
  by_cases h : other = name
  · simp [h]
  · simp [h]

/-- The instances of a scope are different ones. -/
theorem Sound.pairwise_entries (hs : s.Sound) :
    s.instances.entries.Pairwise fun e f => e.2.number ≠ f.2.number := by
  refine s.instances.distinct.imp_of_mem fun {e f} he hf hne hnumber => ?_
  have hname : e.1 = f.1 :=
    hs.distinct e.1 e.2 f.1 f.2 (Table.mem_entries_iff.mp he) (Table.mem_entries_iff.mp hf) hnumber
  rw [hname, beq_self_eq_true] at hne
  cases hne

theorem mem_discarded {e : Text × Instance} :
    e ∈ s.discarded t ↔ s.instances.get? e.1 = some e.2 ∧
      ∀ i, t.instances.get? e.1 = some i → i.number ≠ e.2.number := by
  unfold discarded
  rw [List.mem_filter, Table.mem_entries_iff]
  cases t.instances.get? e.1 with
  | none => simp
  | some i => simp

/-- Nothing is discarded that is still there. -/
theorem discarded_eq_nil
    (h : ∀ name i, s.instances.get? name = some i → t.instances.get? name = some i) :
    s.discarded t = [] := by
  refine List.eq_nil_iff_forall_not_mem.mpr fun e he => ?_
  obtain ⟨hcached, hgone⟩ := mem_discarded.mp he
  exact hgone e.2 (h e.1 e.2 hcached) rfl

/-- Where one name loses its instance, this is what is discarded. -/
theorem discarded_drop {other : LazyScope} (h : other.instances = (s.drop name).instances) :
    s.discarded other = s.instanceOf name := by
  unfold discarded instanceOf
  rw [← Table.filter_entries, h]
  refine List.filter_congr fun e he => ?_
  have hcached := Table.mem_entries_iff.mp he
  have hget : (s.drop name).instances.get? e.1 =
      if name == e.1 then none else s.instances.get? e.1 := Table.get?_erase _ _ _
  rw [hget, hcached, BEq.comm]
  cases e.1 == name with
  | true => rfl
  | false => simp

theorem discarded_empty (h : t.instances = Table.empty) :
    s.discarded t = s.instances.entries := by
  unfold discarded
  rw [h]
  exact List.filter_eq_self.mpr fun _ _ => rfl

theorem instanceOf_eq_nil_iff : s.instanceOf name = [] ↔ s.isActive name = false := by
  unfold instanceOf isActive Table.contains
  cases s.instances.get? name with
  | none => simp
  | some i => simp

theorem filter_isDestroy_flatMap (s : LazyScope) (es : List (Text × Instance)) :
    (es.flatMap s.destroyNotes).filter Note.isDestroy = es.flatMap s.destroyNotes := by
  refine List.filter_eq_self.mpr fun n hn => ?_
  obtain ⟨e, -, he⟩ := List.mem_flatMap.mp hn
  unfold destroyNotes at he
  split at he
  · cases he
  · obtain rfl := List.mem_singleton.mp he
    rfl

theorem sound_empty : LazyScope.empty.Sound where
  quiet _ _ h := nomatch h
  silent := rfl
  current _ _ h := nomatch h
  numbered _ _ h := nomatch h
  distinct _ _ _ _ h := nomatch h

end LazyScope

namespace ScopeMove

open LazyScope

variable {s t : LazyScope} {call : ScopeCall} {answer : Except Failure ScopeAnswer}
variable {own : List Note} {name : Text} {i : Instance}

/-! ## Where instances come from -/

/-- A call that builds an instance. -/
structure Builds (s : LazyScope) (call : ScopeCall) (answer : Except Failure ScopeAnswer)
    (own : List Note) (t : LazyScope) (name : Text) (i : Instance) : Prop where
  call_eq : call = .fetch name
  answer_eq : answer = .ok (.instance i)
  notes_eq : own = [.make name]
  uncached : s.instances.get? name = none
  number_eq : i.number = s.built + 1
  built_eq : t.built = i.number
  components_eq : t.components = s.components
  instances_eq : t.instances = s.instances.insert name i
  current : ∃ r, s.components.get? name = some r ∧ r.number = i.builder

/-- The components after a call are those before unless one is registered. -/
theorem components_eq (h : ScopeMove s call answer own t) {other : Text}
    (hother : ∀ factory destroy, call ≠ .register other factory destroy) :
    t.components.get? other = s.components.get? other := by
  cases h with
  | registered name factory destroy =>
    have hne : name ≠ other := by
      rintro rfl
      exact hother factory destroy rfl
    rw [get?_components, get?_components, Table.get?_insert]
    simp [hne]
  | cached name hi => rfl
  | unknown name hi hr => rfl
  | failed name failure hi hr =>
    exact congrArg (fun c => c.get? other) (components_countCall hr)
  | built name v hi hr =>
    exact congrArg (fun c => c.get? other) (components_countCall hr)
  | refreshed name answer => rfl
  | cleared answer => rfl

/-- An instance was there before, of the same component, or has just been built. -/
theorem origin (h : ScopeMove s call answer own t) (hi : t.instances.get? name = some i) :
    (s.instances.get? name = some i ∧ t.components.get? name = s.components.get? name) ∨
      Builds s call answer own t name i := by
  cases h with
  | registered other factory destroy =>
    obtain ⟨hne, hbefore⟩ := get?_drop_eq_some_iff.mp hi
    refine .inl ⟨hbefore, ?_⟩
    refine components_eq (ScopeMove.registered other factory destroy) fun _ _ heq => ?_
    exact hne (ScopeCall.register.inj heq).1
  | cached other hcached => exact .inl ⟨hi, rfl⟩
  | unknown other hnone hr => exact .inl ⟨hi, rfl⟩
  | failed other failure hnone hr =>
    exact .inl ⟨hi, congrArg (fun c => c.get? name) (components_countCall hr)⟩
  | @built other r v hnone hr =>
    have hget : (s.instances.insert other (s.nextInstance r v)).get? name = some i := hi
    have hcomponents := components_countCall hr
    rw [Table.get?_insert] at hget
    by_cases hname : other = name
    · subst hname
      rw [beq_self_eq_true, if_pos rfl] at hget
      obtain rfl := Option.some.inj hget
      refine .inr ⟨rfl, rfl, rfl, hnone, rfl, rfl, hcomponents, rfl, r.uncalled, ?_, rfl⟩
      rw [get?_components, hr]
      rfl
    · rw [beq_false_of_ne hname, if_neg Bool.false_ne_true] at hget
      exact .inl ⟨hget, congrArg (fun c => c.get? name) hcomponents⟩
  | refreshed other answer => exact .inl ⟨(get?_drop_eq_some_iff.mp hi).2, rfl⟩
  | cleared answer => cases hi

/-- The count of instances only goes up. -/
theorem built_le (h : ScopeMove s call answer own t) : s.built ≤ t.built := by
  cases h with
  | built name v hnone hr => exact Nat.le_succ s.built
  | registered | cached | unknown | failed | refreshed | cleared => exact Nat.le_refl s.built

/-! ## What is kept up -/

theorem quiet (h : ScopeMove s call answer own t) (hs : s.IsQuiet) (hcall : call.IsQuiet) :
    t.IsQuiet := by
  rw [isQuiet_iff] at hs ⊢
  intro other r hr
  cases h with
  | registered name factory destroy =>
    rw [get?_components, Table.get?_insert] at hr
    by_cases hname : name = other
    · rw [hname, beq_self_eq_true, if_pos rfl] at hr
      obtain rfl := Option.some.inj hr
      exact ⟨hcall.factory, hcall.destroy⟩
    · rw [beq_false_of_ne hname, if_neg Bool.false_ne_true, ← get?_components] at hr
      exact hs other r hr
  | cached name hi => exact hs other r hr
  | unknown name hi hnone => exact hs other r hr
  | failed name failure hi hreg =>
    exact hs other r (components_countCall hreg ▸ hr)
  | built name v hi hreg =>
    exact hs other r (components_countCall hreg ▸ hr)
  | refreshed name answer => exact hs other r hr
  | cleared answer => exact hs other r hr

theorem journal_eq (h : ScopeMove s call answer own t) (hs : s.journal = Journal.empty) :
    t.journal = Journal.empty := by
  cases h with
  | failed | built => rfl
  | registered | cached | unknown | refreshed | cleared => exact hs

/-- Every call keeps a scope sound. -/
theorem sound (h : ScopeMove s call answer own t) (hs : s.Sound) (hcall : call.IsQuiet) :
    t.Sound where
  quiet := h.quiet hs.quiet hcall
  silent := h.journal_eq hs.silent
  current name i hi := by
    rcases h.origin hi with ⟨hbefore, hcomponent⟩ | hbuilds
    · rw [hcomponent]
      exact hs.current name i hbefore
    · rw [hbuilds.components_eq]
      exact hbuilds.current
  numbered name i hi := by
    rcases h.origin hi with ⟨hbefore, -⟩ | hbuilds
    · exact Nat.le_trans (hs.numbered name i hbefore) h.built_le
    · exact Nat.le_of_eq hbuilds.built_eq.symm
  distinct name i other j hi hj hij := by
    -- A new number is above all numbers that are there.
    rcases h.origin hi with ⟨hi, -⟩ | hnew
    · rcases h.origin hj with ⟨hj, -⟩ | hnew
      · exact hs.distinct name i other j hi hj hij
      · have hle := hs.numbered name i hi
        have hnumber := hnew.number_eq
        omega
    · rcases h.origin hj with ⟨hj, -⟩ | hnew'
      · have hle := hs.numbered other j hj
        have hnumber := hnew.number_eq
        omega
      · exact ScopeCall.fetch.inj (hnew.call_eq.symm.trans hnew'.call_eq)

/-- A fetched instance is the one that is there afterwards. -/
theorem get?_of_fetched (h : ScopeMove s (.fetch name) (.ok (.instance i)) own t) :
    t.instances.get? name = some i := by
  cases h with
  | cached _ hi => exact hi
  | @built _ r v hnone hr =>
    have hget : (s.instances.insert name (s.nextInstance r v)).get? name =
        some (s.nextInstance r v) := by
      rw [Table.get?_insert, beq_self_eq_true, if_pos rfl]
    exact hget

/-- A fetch that calls the factory and returns has built what it returns. -/
theorem builds_of_make (h : ScopeMove s (.fetch name) (.ok (.instance i)) own t)
    (hmake : own.any Note.isMake = true) :
    Builds s (.fetch name) (.ok (.instance i)) own t name i := by
  have huncached : s.instances.get? name = none := by
    cases h with
    | cached _ hi => cases hmake
    | built _ v hnone hr => exact hnone
  rcases h.origin h.get?_of_fetched with ⟨hbefore, -⟩ | hbuilds
  · rw [huncached] at hbefore
    cases hbefore
  · exact hbuilds

/-- A fetch that fails leaves all as it is but for the count of the calls of the factory. -/
theorem unchanged_of_error {failure : Failure}
    (h : ScopeMove s (.fetch name) (.error failure) own t) :
    t.components = s.components ∧ t.instances = s.instances ∧ t.registered = s.registered ∧
      t.built = s.built := by
  cases h with
  | unknown _ hnone hr => exact ⟨rfl, rfl, rfl, rfl⟩
  | failed _ _ hnone hr => exact ⟨components_countCall hr, rfl, rfl, rfl⟩

/-! ## Discarding -/

theorem eq_of_refresh (h : ScopeMove s (.refresh name) answer own t) : t = s.drop name := by
  cases h
  rfl

theorem eq_of_refreshAll (h : ScopeMove s .refreshAll answer own t) :
    t = { s with instances := Table.empty } := by
  cases h
  rfl

theorem answer_of_register {factory : Nat → Recipe} {destroy : Option (List DestroyAction)}
    (h : ScopeMove s (.register name factory destroy) answer own t) : answer = .ok .nothing := by
  cases h
  rfl

/-- The destroy callbacks are called for what is discarded, once each and in order. -/
theorem destroyNotes_discarded (h : ScopeMove s call answer own t) :
    own.filter Note.isDestroy = (s.discarded t).flatMap s.destroyNotes := by
  have hown (es : List (Text × Instance)) (hes : s.discarded t = es) :
      (es.flatMap s.destroyNotes).filter Note.isDestroy =
        (s.discarded t).flatMap s.destroyNotes := by
    rw [filter_isDestroy_flatMap, hes]
  cases h with
  | registered name factory destroy => exact hown _ (discarded_drop rfl)
  | cached name hi => exact hown [] (discarded_eq_nil fun _ _ hi => hi)
  | unknown name hi hr => exact hown [] (discarded_eq_nil fun _ _ hi => hi)
  | failed name failure hi hr => exact hown [] (discarded_eq_nil fun _ _ hi => hi)
  | @built name r v hnone hr =>
    have hkept : ∀ other j, s.instances.get? other = some j →
        (s.instances.insert name (s.nextInstance r v)).get? other = some j := by
      intro other j hj
      have hname : name ≠ other := by
        rintro rfl
        rw [hnone] at hj
        cases hj
      rw [Table.get?_insert, beq_false_of_ne hname, if_neg Bool.false_ne_true]
      exact hj
    exact hown [] (discarded_eq_nil hkept)
  | refreshed name answer => exact hown _ (discarded_drop rfl)
  | cleared answer => exact hown _ (discarded_empty rfl)

/-- What is discarded was there, and its number is used up. -/
theorem gone_of_mem_discarded (h : ScopeMove s call answer own t) (hs : s.Sound)
    {e : Text × Instance} (he : e ∈ s.discarded t) : t.Gone e.2.number := by
  obtain ⟨hcached, habsent⟩ := mem_discarded.mp he
  refine ⟨Nat.le_trans (hs.numbered _ _ hcached) h.built_le, fun name i hi hnumber => ?_⟩
  rcases h.origin hi with ⟨hbefore, -⟩ | hbuilds
  · obtain rfl := hs.distinct name i e.1 e.2 hbefore hcached hnumber
    exact habsent i hi hnumber
  · have hle := hs.numbered _ _ hcached
    have hnew := hbuilds.number_eq
    omega

/-- A number that is used up stays used up. -/
theorem gone (h : ScopeMove s call answer own t) {number : Nat} (hs : s.Gone number) :
    t.Gone number := by
  refine ⟨Nat.le_trans hs.used h.built_le, fun name i hi hnumber => ?_⟩
  rcases h.origin hi with ⟨hbefore, -⟩ | hbuilds
  · exact hs.absent name i hbefore hnumber
  · have hle := hs.used
    have hnew := hbuilds.number_eq
    omega

end ScopeMove

/-- A fetch from a sound scope is one of the moves that a fetch can be. -/
theorem LazyScope.exists_fetch {s : LazyScope} (hs : s.Sound) (properties : PropertySource)
    (name : Text) :
    ∃ outcome t own log,
      fetch properties name s =
        (outcome, { t with journal := ⟨s.journal.notes ++ own, log⟩ }) ∧
      ScopeMove s (.fetch name) (outcome.map ScopeAnswer.instance) own t := by
  have hnotes : s.journal.notes ++ [] = s.journal.notes := List.append_nil _
  cases hi : s.instances.get? name with
  | some i =>
    refine ⟨.ok i, s, [], s.journal.log, ?_, .cached name hi⟩
    rw [hnotes]
    exact fetch_of_cached properties hi
  | none =>
    cases hr : s.registrations.get? name with
    | none =>
      refine ⟨.error (.missingKey (.str name)), s, [], s.journal.log, ?_, .unknown name hi hr⟩
      rw [hnotes]
      exact fetch_of_unknown properties hi hr
    | some r =>
      obtain ⟨outcome, hfetch⟩ := fetch_of_registered properties hi hr (hs.quiet name r hr)
      cases outcome with
      | error failure =>
        exact ⟨.error failure, (s.countCall name r).silent, [.make name], s.journal.log, hfetch,
          .failed name failure hi hr⟩
      | ok v =>
        exact ⟨.ok (s.nextInstance r v),
          ((s.countCall name r).keep name (s.nextInstance r v)).silent, [.make name],
          s.journal.log, hfetch, .built name v hi hr⟩

end LiveConfig
