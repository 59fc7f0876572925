import LiveConfig.Proofs.Session.Scope

/-!
# The life of the instances of a scope

A scope is registered with, fetched from and refreshed in any order.  Between two calls everything
else in the session may change; what is followed here is the scope.  Factories and destroy callbacks
may fail, listeners may do anything but fetch, and every successful call of a factory makes a new
instance.

**Results.**
* `ScopeRun.origin`, `ScopeRun.gone`, `ScopeRun.lasting`: where an instance comes from, that it does
  not come back, and that it stays until it is discarded.
* `ScopeRun.instances_live_once`: all that holds of the instances of a scope over a run of calls.
-/

namespace LiveConfig

/-- A run of calls, from one scope to another. -/
inductive ScopeRun (publishes : Bool) : LazyScope → List ScopeTurn → LazyScope → Prop
  | nil (s : LazyScope) : ScopeRun publishes s [] s
  | cons {c : ScopeTurn} {turns : List ScopeTurn} {t : LazyScope} :
      c.Proper publishes →
      ScopeRun publishes (c.after publishes).scope turns t →
      ScopeRun publishes c.session.scope (c :: turns) t

/-- The instances that a run of calls fetches, in order. -/
def fetchedIn (publishes : Bool) (turns : List ScopeTurn) : List (Text × Instance) :=
  turns.flatMap (ScopeTurn.fetched publishes)

/-- The instances that a run of calls has factories build, in order. -/
def builtIn (publishes : Bool) (turns : List ScopeTurn) : List (Text × Instance) :=
  turns.flatMap (ScopeTurn.built publishes)

/-- The instances that a run of calls discards, in order. -/
def discardedIn (publishes : Bool) (turns : List ScopeTurn) : List (Text × Instance) :=
  turns.flatMap (ScopeTurn.discarded publishes)

namespace ScopeTurn.Moves

open LazyScope

variable {publishes : Bool} {c : ScopeTurn} {own rest : List Note}
variable (h : c.Moves publishes own rest)
include h

/-- What is used up is neither fetched nor discarded. -/
theorem gone {number : Nat} (hgone : c.session.scope.Gone number) :
    (∀ e ∈ c.fetched publishes, e.2.number ≠ number) ∧
      ∀ e ∈ c.discarded publishes, e.2.number ≠ number := by
  constructor
  · intro e he
    exact (h.move.gone hgone).absent e.1 e.2 (h.get?_of_fetched he)
  · intro e he
    exact hgone.absent e.1 e.2 (mem_discarded.mp he).1

/-- A name that loses no instance keeps the one it has. -/
theorem get?_of_not_discarded {name : Text} {i : Instance} (hs : c.session.scope.Sound)
    (hi : c.session.scope.instances.get? name = some i)
    (hkept : ∀ e ∈ c.discarded publishes, e.1 ≠ name) :
    (c.after publishes).scope.instances.get? name = some i := by
  by_contra hne
  refine hkept (name, i) (mem_discarded.mpr ⟨hi, fun j hj hnumber => ?_⟩) rfl
  rcases h.move.origin hj with ⟨hbefore, -⟩ | hbuilds
  · rw [hi] at hbefore
    obtain rfl := Option.some.inj hbefore
    exact hne hj
  · have hle := hs.numbered name i hi
    have hnew := hbuilds.number_eq
    have hsame : j.number = i.number := hnumber
    omega

end ScopeTurn.Moves

namespace ScopeTurn

variable {publishes : Bool} {c : ScopeTurn}

theorem length_fetched_le (publishes : Bool) (c : ScopeTurn) :
    (c.fetched publishes).length ≤ 1 := by
  unfold fetched
  split
  · exact Nat.le_refl 1
  · exact Nat.zero_le 1

theorem length_built_le (publishes : Bool) (c : ScopeTurn) : (c.built publishes).length ≤ 1 := by
  unfold built
  split
  · exact c.length_fetched_le publishes
  · exact Nat.zero_le 1

/-- Different instances are discarded in one call. -/
theorem pairwise_discarded (publishes : Bool) (hs : c.session.scope.Sound) :
    (c.discarded publishes).Pairwise fun e f => e.2.number ≠ f.2.number :=
  hs.pairwise_entries.filter _

end ScopeTurn

namespace ScopeRun

open LazyScope

variable {publishes : Bool} {s t : LazyScope} {turns : List ScopeTurn} {name : Text} {i : Instance}

theorem sound_after {c : ScopeTurn} (hc : c.Proper publishes) (hs : c.session.scope.Sound) :
    (c.after publishes).scope.Sound := by
  obtain ⟨own, rest, hmoves⟩ := c.exists_moves hc hs
  exact hmoves.move.sound hs hc.quiet

theorem sound (h : ScopeRun publishes s turns t) (hs : s.Sound) : t.Sound := by
  induction h with
  | nil s => exact hs
  | cons hc hrest ih => exact ih (sound_after hc hs)

/-- A run can be taken apart between any two calls. -/
theorem exists_append {xs ys : List ScopeTurn} (h : ScopeRun publishes s (xs ++ ys) t) :
    ∃ u, ScopeRun publishes s xs u ∧ ScopeRun publishes u ys t := by
  induction xs generalizing s with
  | nil => exact ⟨s, .nil s, h⟩
  | cons c xs ih =>
    cases h with
    | cons hc hrest =>
      obtain ⟨u, hxs, hys⟩ := ih hrest
      exact ⟨u, .cons hc hxs, hys⟩

/-- Every call of a run is one of the moves of a scope. -/
theorem exists_moves (h : ScopeRun publishes s turns t) (hs : s.Sound) {c : ScopeTurn}
    (hc : c ∈ turns) :
    c.session.scope.Sound ∧ ∃ own rest, c.Moves publishes own rest := by
  induction h with
  | nil s => cases hc
  | cons hproper hrest ih =>
    rcases List.mem_cons.mp hc with rfl | hmem
    · exact ⟨hs, c.exists_moves hproper hs⟩
    · exact ih (sound_after hproper hs) hmem

/-! ## Where an instance comes from and where it goes -/

/-- An instance was there from the start or was built on the way, by what is registered now. -/
theorem origin (h : ScopeRun publishes s turns t) (hs : s.Sound)
    (hi : t.instances.get? name = some i) :
    (s.instances.get? name = some i ∧ t.components.get? name = s.components.get? name) ∨
      ∃ c ∈ turns, (name, i) ∈ c.built publishes ∧
        t.components.get? name = c.session.scope.components.get? name := by
  induction h with
  | nil s => exact .inl ⟨hi, rfl⟩
  | @cons c turns t hc hrest ih =>
    obtain ⟨own, rest, hmoves⟩ := c.exists_moves hc hs
    rcases ih (sound_after hc hs) hi with ⟨hafter, hsame⟩ | ⟨d, hd, hbuilt, hsame⟩
    · rcases hmoves.move.origin hafter with ⟨hbefore, hcomponent⟩ | hbuilds
      · exact .inl ⟨hbefore, hsame.trans hcomponent⟩
      · refine .inr ⟨c, List.mem_cons_self, hmoves.mem_built_iff.mpr hbuilds, ?_⟩
        rw [hsame, hbuilds.components_eq]
    · exact .inr ⟨d, List.mem_cons_of_mem c hd, hbuilt, hsame⟩

/-- What is used up does not come back. -/
theorem gone (h : ScopeRun publishes s turns t) (hs : s.Sound) {number : Nat}
    (hgone : s.Gone number) :
    (∀ e ∈ fetchedIn publishes turns, e.2.number ≠ number) ∧
      ∀ e ∈ discardedIn publishes turns, e.2.number ≠ number := by
  induction h with
  | nil s => simp [fetchedIn, discardedIn]
  | @cons c turns t hc hrest ih =>
    obtain ⟨own, rest, hmoves⟩ := c.exists_moves hc hs
    obtain ⟨hfetched, hdiscarded⟩ := hmoves.gone hgone
    obtain ⟨hfetchedRest, hdiscardedRest⟩ := ih (sound_after hc hs) (hmoves.move.gone hgone)
    unfold fetchedIn discardedIn
    simp only [List.flatMap_cons, List.mem_append]
    exact ⟨fun e he => he.elim (hfetched e) (hfetchedRest e),
      fun e he => he.elim (hdiscarded e) (hdiscardedRest e)⟩

/-- New numbers are above all numbers before. -/
theorem built_lt (h : ScopeRun publishes s turns t) (hs : s.Sound) :
    ∀ e ∈ builtIn publishes turns, s.built < e.2.number := by
  induction h with
  | nil s => exact fun _ he => nomatch he
  | @cons c turns t hc hrest ih =>
    obtain ⟨own, rest, hmoves⟩ := c.exists_moves hc hs
    unfold builtIn
    simp only [List.flatMap_cons, List.mem_append]
    rintro e (he | he)
    · have hnew := (hmoves.mem_built_iff.mp he).number_eq
      omega
    · exact Nat.lt_of_le_of_lt hmoves.move.built_le (ih (sound_after hc hs) e he)

/-- Instances are numbered as they are built. -/
theorem pairwise_builtIn (h : ScopeRun publishes s turns t) (hs : s.Sound) :
    (builtIn publishes turns).Pairwise fun e f => e.2.number < f.2.number := by
  induction h with
  | nil s => exact List.Pairwise.nil
  | @cons c turns t hc hrest ih =>
    obtain ⟨own, rest, hmoves⟩ := c.exists_moves hc hs
    have hafter := sound_after hc hs
    unfold builtIn
    rw [List.flatMap_cons]
    refine List.pairwise_append.mpr ⟨?first, ih hafter, fun e he f hf => ?across⟩
    case first =>
      have hlength := c.length_built_le publishes
      generalize c.built publishes = es at hlength
      match es with
      | [] => exact List.Pairwise.nil
      | [e] => exact List.pairwise_singleton _ e
      | _ :: _ :: _ => cases Nat.le_of_succ_le_succ hlength
    case across =>
      have hlast := (hmoves.mem_built_iff.mp he).built_eq
      rw [← hlast]
      exact built_lt hrest hafter f hf

/-- No instance is discarded twice. -/
theorem pairwise_discardedIn (h : ScopeRun publishes s turns t) (hs : s.Sound) :
    (discardedIn publishes turns).Pairwise fun e f => e.2.number ≠ f.2.number := by
  induction h with
  | nil s => exact List.Pairwise.nil
  | @cons c turns t hc hrest ih =>
    obtain ⟨own, rest, hmoves⟩ := c.exists_moves hc hs
    have hafter := sound_after hc hs
    unfold discardedIn
    rw [List.flatMap_cons]
    refine List.pairwise_append.mpr ⟨c.pairwise_discarded publishes hs, ih hafter, ?_⟩
    intro e he f hf
    exact ((gone hrest hafter (hmoves.move.gone_of_mem_discarded hs he)).2 f hf).symm

/-! ## How long an instance stays -/

/-- An instance that is there is what is fetched until it is discarded. -/
theorem lasting_of_cached (h : ScopeRun publishes s turns t) (hs : s.Sound)
    (hi : s.instances.get? name = some i) (hkept : ∀ e ∈ discardedIn publishes turns, e.1 ≠ name) :
    (∀ e ∈ builtIn publishes turns, e.1 ≠ name) ∧
      ∀ e ∈ fetchedIn publishes turns, e.1 = name → e.2 = i := by
  induction h with
  | nil s => simp [builtIn, fetchedIn]
  | @cons c turns t hc hrest ih =>
    obtain ⟨own, rest, hmoves⟩ := c.exists_moves hc hs
    unfold discardedIn at hkept
    unfold builtIn fetchedIn
    simp only [List.flatMap_cons, List.mem_append] at hkept ⊢
    have hafter := hmoves.get?_of_not_discarded hs hi fun e he => hkept e (.inl he)
    obtain ⟨hbuiltRest, hfetchedRest⟩ :=
      ih (sound_after hc hs) hafter fun e he => hkept e (.inr he)
    constructor
    · rintro e (he | he) rfl
      · have huncached := (hmoves.mem_built_iff.mp he).uncached
        rw [hi] at huncached
        cases huncached
      · exact hbuiltRest e he rfl
    · rintro e (he | he) rfl
      · have hfetched := hmoves.get?_of_fetched he
        rw [hafter] at hfetched
        exact (Option.some.inj hfetched).symm
      · exact hfetchedRest e he rfl

/-- While a name loses no instance, at most one is built for it, and all fetches return the same. -/
theorem lasting (h : ScopeRun publishes s turns t) (hs : s.Sound)
    (hkept : ∀ e ∈ discardedIn publishes turns, e.1 ≠ name) :
    ((builtIn publishes turns).filter fun e => e.1 == name).length ≤ 1 ∧
      ∀ e ∈ fetchedIn publishes turns, ∀ f ∈ fetchedIn publishes turns,
        e.1 = name → f.1 = name → e.2 = f.2 := by
  induction h with
  | nil s => exact ⟨Nat.zero_le 1, fun _ he => nomatch he⟩
  | @cons c turns t hc hrest ih =>
    obtain ⟨own, rest, hmoves⟩ := c.exists_moves hc hs
    have hsound := sound_after hc hs
    have hkeptRest : ∀ e ∈ discardedIn publishes turns, e.1 ≠ name := fun e he =>
      hkept e (List.mem_append_right _ he)
    have hsplit : builtIn publishes (c :: turns) =
        c.built publishes ++ builtIn publishes turns := rfl
    cases hafter : (c.after publishes).scope.instances.get? name with
    | some i =>
      -- From here on the instance is there.
      obtain ⟨hbuiltRest, hfetchedRest⟩ := lasting_of_cached hrest hsound hafter hkeptRest
      have hall : ∀ e ∈ fetchedIn publishes (c :: turns), e.1 = name → e.2 = i := by
        intro e he hname
        rcases List.mem_append.mp he with he | he
        · have hfetched := hmoves.get?_of_fetched he
          rw [hname, hafter] at hfetched
          exact (Option.some.inj hfetched).symm
        · exact hfetchedRest e he hname
      constructor
      · have hnone : (builtIn publishes turns).filter (fun e => e.1 == name) = [] :=
          List.filter_eq_nil_iff.mpr fun e he hname => hbuiltRest e he (eq_of_beq hname)
        rw [hsplit, List.filter_append, hnone, List.append_nil]
        exact Nat.le_trans (List.length_filter_le _ _) (c.length_built_le publishes)
      · intro e he f hf hen hfn
        exact (hall e he hen).trans (hall f hf hfn).symm
    | none =>
      have hfirst : ∀ e ∈ c.fetched publishes, e.1 ≠ name := by
        rintro e he rfl
        rw [hmoves.get?_of_fetched he] at hafter
        cases hafter
      obtain ⟨hlength, hsame⟩ := ih hsound hkeptRest
      constructor
      · have hnone : (c.built publishes).filter (fun e => e.1 == name) = [] :=
          List.filter_eq_nil_iff.mpr fun e he hname =>
            hfirst e (ScopeTurn.mem_fetched_of_mem_built he) (eq_of_beq hname)
        rw [hsplit, List.filter_append, hnone, List.nil_append]
        exact hlength
      · intro e he f hf hen hfn
        have hin : ∀ e ∈ fetchedIn publishes (c :: turns), e.1 = name →
            e ∈ fetchedIn publishes turns := fun e he hname =>
          (List.mem_append.mp he).elim (fun he => absurd hname (hfirst e he)) id
        exact hsame e (hin e he hen) f (hin f hf hfn) hen hfn

/-! ## All that holds of a run -/

/-- In a run from the scope without registrations everything was built on the way. -/
theorem exists_built (h : ScopeRun publishes LazyScope.empty turns t)
    (hi : t.instances.get? name = some i) :
    ∃ c ∈ turns, (name, i) ∈ c.built publishes ∧ ∃ r, t.components.get? name = some r ∧
      c.session.scope.components.get? name = some r ∧ i.builder = r.number := by
  obtain ⟨r, hr, hnumber⟩ := (h.sound sound_empty).current name i hi
  rcases h.origin sound_empty hi with ⟨hnone, -⟩ | ⟨c, hc, hbuilt, hsame⟩
  · cases hnone
  · exact ⟨c, hc, hbuilt, r, hr, hsame.symm.trans hr, hnumber.symm⟩

/-- What is discarded in a run was built in it before. -/
theorem exists_built_of_discarded {earlier later : List ScopeTurn} {c : ScopeTurn}
    (h : ScopeRun publishes LazyScope.empty (earlier ++ c :: later) t)
    {e : Text × Instance} (he : e ∈ c.discarded publishes) :
    ∃ b ∈ earlier, e ∈ b.built publishes ∧ ∃ r, c.session.scope.components.get? e.1 = some r ∧
      b.session.scope.components.get? e.1 = some r ∧ e.2.builder = r.number := by
  obtain ⟨u, hearlier, hrest⟩ := h.exists_append
  cases hrest with
  | cons hc hlater => exact hearlier.exists_built (mem_discarded.mp he).1

/-- What is discarded in a run is not fetched after it. -/
theorem number_ne_of_discarded {earlier later : List ScopeTurn} {c : ScopeTurn}
    (h : ScopeRun publishes LazyScope.empty (earlier ++ c :: later) t)
    {e : Text × Instance} (he : e ∈ c.discarded publishes) :
    ∀ f ∈ fetchedIn publishes later, f.2.number ≠ e.2.number := by
  obtain ⟨u, hearlier, hrest⟩ := h.exists_append
  have hu := hearlier.sound sound_empty
  cases hrest with
  | cons hc hlater =>
    obtain ⟨own, rest, hmoves⟩ := c.exists_moves hc hu
    exact (hlater.gone (sound_after hc hu) (hmoves.move.gone_of_mem_discarded hu he)).1

/-- What a refresh of one name does depends on whether the name has an instance. -/
theorem result_refresh (h : ScopeRun publishes s turns t) (hs : s.Sound) {c : ScopeTurn}
    (hc : c ∈ turns) (hcall : c.call = .refresh name) :
    (c.discarded publishes = [] →
      c.result publishes = (.ok (.discarded false), c.session)) ∧
    (c.discarded publishes ≠ [] → ∃ log, c.result publishes =
      (Act.publishIf publishes (.scopeRefreshed (some name)) >>= fun _ =>
        pure (ScopeAnswer.discarded true)).runOn
        (c.session.scoped (c.session.scope.drop name)
          ((c.discarded publishes).flatMap c.session.scope.destroyNotes) log)) := by
  obtain ⟨hsound, own, rest, hmoves⟩ := h.exists_moves hs hc
  have hmove := hmoves.move
  rw [hcall] at hmove
  have hdiscarded : c.discarded publishes = c.session.scope.instanceOf name :=
    discarded_drop (congrArg instances hmove.eq_of_refresh)
  unfold ScopeTurn.result
  rw [hdiscarded, hcall, Ne, instanceOf_eq_nil_iff, Bool.not_eq_false]
  exact ⟨ScopeTurn.runOn_refresh_of_absent publishes hsound,
    ScopeTurn.exists_runOn_refresh publishes hsound⟩

theorem result_refreshAll (h : ScopeRun publishes s turns t) (hs : s.Sound) {c : ScopeTurn}
    (hc : c ∈ turns) (hcall : c.call = .refreshAll) :
    (c.after publishes).scope.instances = Table.empty ∧
    ∃ log, c.result publishes =
      (Act.publishIf publishes (.scopeRefreshed none) >>= fun _ =>
        pure ScopeAnswer.nothing).runOn
        (c.session.scoped { c.session.scope with instances := Table.empty }
          ((c.discarded publishes).flatMap c.session.scope.destroyNotes) log) := by
  obtain ⟨hsound, own, rest, hmoves⟩ := h.exists_moves hs hc
  have hmove := hmoves.move
  rw [hcall] at hmove
  have hempty : (c.after publishes).scope.instances = Table.empty :=
    congrArg instances hmove.eq_of_refreshAll
  have hdiscarded : c.discarded publishes = c.session.scope.instances.entries :=
    discarded_empty hempty
  refine ⟨hempty, ?_⟩
  unfold ScopeTurn.result
  rw [hdiscarded, hcall]
  exact ScopeTurn.exists_runOn_refreshAll publishes hsound

end ScopeRun

/-- What holds of a run of calls from the scope without registrations to another scope. -/
structure InstancesLiveOnce (publishes : Bool) (turns : List ScopeTurn) (s : LazyScope) :
    Prop where
  /-- An instance that is there was built by the component that is registered for its name. -/
  current : ∀ name i, s.instances.get? name = some i →
    ∃ c ∈ turns, (name, i) ∈ c.built publishes ∧ ∃ r, s.components.get? name = some r ∧
      c.session.scope.components.get? name = some r ∧ i.builder = r.number
  /-- Every success of a factory makes a new instance. -/
  new : (builtIn publishes turns).Pairwise fun e f => e.2.number < f.2.number
  discarded_once : (discardedIn publishes turns).Pairwise fun e f => e.2.number ≠ f.2.number
  /-- What is discarded was built by the component that is registered when it is discarded. -/
  discarded_current : ∀ earlier c later, turns = earlier ++ c :: later →
    ∀ e ∈ c.discarded publishes, ∃ b ∈ earlier, e ∈ b.built publishes ∧
      ∃ r, c.session.scope.components.get? e.1 = some r ∧
        b.session.scope.components.get? e.1 = some r ∧ e.2.builder = r.number
  never_again : ∀ earlier c later, turns = earlier ++ c :: later →
    ∀ e ∈ c.discarded publishes, ∀ f ∈ fetchedIn publishes later, f.2.number ≠ e.2.number
  /-- A call calls the destroy callbacks for what it discards, once each, also if they fail. -/
  destroyed : ∀ c ∈ turns, (c.notes publishes).filter Note.isDestroy =
    (c.discarded publishes).flatMap c.session.scope.destroyNotes
  /-- While a name loses no instance, one is built at most and all fetches return the same. -/
  lasting : ∀ earlier between later name, turns = earlier ++ between ++ later →
    (∀ e ∈ discardedIn publishes between, e.1 ≠ name) →
    ((builtIn publishes between).filter fun e => e.1 == name).length ≤ 1 ∧
      ∀ e ∈ fetchedIn publishes between, ∀ f ∈ fetchedIn publishes between,
        e.1 = name → f.1 = name → e.2 = f.2
  /-- A fetch that fails changes nothing but how often a factory was called. -/
  failing : ∀ c ∈ turns, ∀ name failure, c.call = .fetch name →
    c.answer publishes = .error failure →
    (c.after publishes).scope.components = c.session.scope.components ∧
      (c.after publishes).scope.instances = c.session.scope.instances ∧
      (c.after publishes).scope.registered = c.session.scope.registered ∧
      (c.after publishes).scope.built = c.session.scope.built
  registering : ∀ c ∈ turns, ∀ name factory destroy, c.call = .register name factory destroy →
    c.answer publishes = .ok .nothing
  /-- A refresh of a name publishes one event if it discards an instance, and else does nothing. -/
  refresh : ∀ c ∈ turns, ∀ name, c.call = .refresh name →
    (c.discarded publishes = [] → c.result publishes = (.ok (.discarded false), c.session)) ∧
    (c.discarded publishes ≠ [] → ∃ log, c.result publishes =
      (Act.publishIf publishes (.scopeRefreshed (some name)) >>= fun _ =>
        pure (ScopeAnswer.discarded true)).runOn
        (c.session.scoped (c.session.scope.drop name)
          ((c.discarded publishes).flatMap c.session.scope.destroyNotes) log))
  /-- A refresh of all names leaves no instance and publishes one event. -/
  refreshAll : ∀ c ∈ turns, c.call = .refreshAll →
    (c.after publishes).scope.instances = Table.empty ∧
    ∃ log, c.result publishes =
      (Act.publishIf publishes (.scopeRefreshed none) >>= fun _ =>
        pure ScopeAnswer.nothing).runOn
        (c.session.scoped { c.session.scope with instances := Table.empty }
          ((c.discarded publishes).flatMap c.session.scope.destroyNotes) log)

/--
**The life of the instances of a scope.**  Over every run of calls from a scope without
registrations, whose factories and destroy callbacks may fail, an instance is built once by what is
registered for its name, stays until it is discarded once, and does not come back; a refresh
publishes what it has discarded.
-/
theorem ScopeRun.instances_live_once (publishes : Bool) (turns : List ScopeTurn) (s : LazyScope)
    (h : ScopeRun publishes LazyScope.empty turns s) : InstancesLiveOnce publishes turns s where
  current _ _ := h.exists_built
  new := h.pairwise_builtIn LazyScope.sound_empty
  discarded_once := h.pairwise_discardedIn LazyScope.sound_empty
  discarded_current := by
    rintro earlier c later rfl e he
    exact h.exists_built_of_discarded he
  never_again := by
    rintro earlier c later rfl e he
    exact h.number_ne_of_discarded he
  destroyed c hc := by
    obtain ⟨-, own, rest, hmoves⟩ := h.exists_moves LazyScope.sound_empty hc
    exact hmoves.destroyNotes_discarded
  lasting := by
    rintro earlier between later name rfl hkept
    obtain ⟨u, hfirst, -⟩ := h.exists_append
    obtain ⟨v, hearlier, hbetween⟩ := hfirst.exists_append
    exact hbetween.lasting (hearlier.sound LazyScope.sound_empty) hkept
  failing c hc name failure hcall hanswer := by
    obtain ⟨-, own, rest, hmoves⟩ := h.exists_moves LazyScope.sound_empty hc
    have hmove := hmoves.move
    rw [hcall, hanswer] at hmove
    exact hmove.unchanged_of_error
  registering c hc name factory destroy hcall := by
    obtain ⟨-, own, rest, hmoves⟩ := h.exists_moves LazyScope.sound_empty hc
    have hmove := hmoves.move
    rw [hcall] at hmove
    exact hmove.answer_of_register
  refresh c hc name := h.result_refresh LazyScope.sound_empty hc
  refreshAll c hc := h.result_refreshAll LazyScope.sound_empty hc

/-! ## Calls one after another -/

namespace ScopeTurn

/-- The calls that are made one after another from a session. -/
def sequence (publishes : Bool) : Session → List ScopeCall → List ScopeTurn
  | _, [] => []
  | s, call :: calls => ⟨s, call⟩ :: sequence publishes (after publishes ⟨s, call⟩) calls

/-- The session after calls that are made one after another. -/
def afterAll (publishes : Bool) : Session → List ScopeCall → Session
  | s, [] => s
  | s, call :: calls => afterAll publishes (after publishes ⟨s, call⟩) calls

end ScopeTurn

theorem ScopeCall.keeps_run (publishes : Bool) (call : ScopeCall) :
    Act.Keeps Session.bare (call.run publishes) := by
  cases call with
  | register name factory destroy => exact (Act.keeps_ofScope _).bind fun _ _ => rfl
  | fetch name => exact (Act.keeps_ofScope _).bind fun _ _ => rfl
  | refresh name =>
    refine ((Act.keeps_ofScope _).bind fun discarded => ?_).bind fun _ _ => rfl
    cases discarded with
    | true => exact (Act.keeps_publishIf publishes _).bind fun _ _ => rfl
    | false => exact fun _ => rfl
  | refreshAll => exact (Act.keeps_refreshInstances publishes).bind fun _ _ => rfl

/-- Where nothing that is registered calls back and no listener fetches, calls make a run. -/
theorem ScopeRun.of_sequence (publishes : Bool) {s : Session} {calls : List ScopeCall}
    (hcalls : ∀ call ∈ calls, call.IsQuiet)
    (hs : publishes = true → s.Confines fun a => ∀ name, a ≠ .fetch name) :
    ScopeRun publishes s.scope (ScopeTurn.sequence publishes s calls)
      (ScopeTurn.afterAll publishes s calls).scope := by
  induction calls generalizing s with
  | nil => exact .nil s.scope
  | cons call calls ih =>
    obtain ⟨hcall, hrest⟩ := List.forall_mem_cons.mp hcalls
    have hbare := call.keeps_run publishes s
    have hlisteners : (ScopeTurn.after publishes ⟨s, call⟩).listeners = s.listeners := by
      have hsame : (((call.run publishes).runOn s).2.bare).listeners = s.bare.listeners := by
        rw [hbare]
      exact hsame
    have hafter : publishes = true →
        (ScopeTurn.after publishes ⟨s, call⟩).Confines fun a => ∀ name, a ≠ .fetch name := by
      intro hp
      have hconfined := hs hp
      unfold Session.Confines at hconfined ⊢
      rwa [hlisteners]
    exact ScopeRun.cons (c := ⟨s, call⟩) ⟨hcall, hs⟩ (ih hrest hafter)

/-! ## An example -/

/-- A component whose factory fails in its first call and whose destroy callback fails. -/
def failingComponent (name : Text) (v : Value) : ScopeCall :=
  .register name (fun n => if n = 1 then .fail (.raised .value "first") else .value v)
    (some [.fail (.raised .runtime "destroy")])

theorem isQuiet_failingComponent (name : Text) (v : Value) : (failingComponent name v).IsQuiet where
  factory n := by
    show (if n = 1 then Recipe.fail _ else Recipe.value v).isQuiet = true
    split <;> rfl
  destroy actions h a ha := by
    obtain rfl := Option.some.inj h
    obtain rfl := List.mem_singleton.mp ha
    rfl

/-- A component is registered, fetched, registered anew while it has an instance, and refreshed. -/
def exampleCalls : List ScopeCall :=
  [failingComponent "a" (.bool false), .fetch "a", .fetch "a", .fetch "a",
    failingComponent "a" (.bool true), .fetch "a", .fetch "a", .refresh "a", .refresh "a",
    .fetch "a", .refreshAll]

/-- The numbers of instances. -/
def numbersOf (es : List (Text × Instance)) : List Nat :=
  es.map fun e => e.2.number

/-- Three instances are built, and each of them is discarded. -/
theorem instances_live_once_example :
    InstancesLiveOnce true (ScopeTurn.sequence true default exampleCalls)
      (ScopeTurn.afterAll true default exampleCalls).scope ∧
    numbersOf (builtIn true (ScopeTurn.sequence true default exampleCalls)) = [1, 2, 3] ∧
    numbersOf (fetchedIn true (ScopeTurn.sequence true default exampleCalls)) = [1, 1, 2, 3] ∧
    numbersOf (discardedIn true (ScopeTurn.sequence true default exampleCalls)) = [1, 2, 3] := by
  have hcalls : ∀ call ∈ exampleCalls, call.IsQuiet := by
    unfold exampleCalls
    simp only [List.forall_mem_cons]
    exact ⟨isQuiet_failingComponent _ _, trivial, trivial, trivial, isQuiet_failingComponent _ _,
      trivial, trivial, trivial, trivial, trivial, trivial, fun _ h => absurd h List.not_mem_nil⟩
  have hrun : ScopeRun true LazyScope.empty (ScopeTurn.sequence true default exampleCalls)
      (ScopeTurn.afterAll true default exampleCalls).scope :=
    ScopeRun.of_sequence true (s := default) hcalls fun _ _ _ h => nomatch h
  exact ⟨ScopeRun.instances_live_once true _ _ hrun, by decide +kernel, by decide +kernel,
    by decide +kernel⟩

end LiveConfig
