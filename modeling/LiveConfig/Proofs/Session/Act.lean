import LiveConfig.Proofs.Failing
import LiveConfig.Session.Basic

/-!
# Running steps of a session

An act run from a session comes to an outcome and a session.  One equation per combinator says what
a run of it is.  Two properties of acts are passed on by all combinators: that they keep some part
of the session (`Act.Keeps`), and that they only fail in certain ways (`Act.FailsOnly`).
-/

namespace LiveConfig

namespace Act

variable {α β γ : Type}

/-- The outcome of an act and the session afterwards. -/
def runOn (x : Act α) (s : Session) : Except Failure α × Session :=
  x s

/-! ## Runs of combinators -/

/-- What comes first decides whether the rest runs. -/
theorem runOn_bind (x : Act α) (f : α → Act β) (s : Session) :
    (x >>= f).runOn s =
      match x.runOn s with
      | (.ok a, t) => (f a).runOn t
      | (.error failure, t) => (.error failure, t) := by
  refine (run_bind x f s).trans ?_
  unfold runOn ExceptT.run
  rcases x s with ⟨failure | a, t⟩
  · rfl
  · rfl

/-- A failed act is handled, and what it did stays done. -/
theorem runOn_tryCatch (x : Act α) (handle : Failure → Act α) (s : Session) :
    (tryCatch x handle).runOn s =
      match x.runOn s with
      | (.ok a, t) => (.ok a, t)
      | (.error failure, t) => (handle failure).runOn t := by
  unfold runOn
  simp only [tryCatch, tryCatchThe, MonadExceptOf.tryCatch, ExceptT.tryCatch, ExceptT.mk, bind,
    StateT.bind]
  rcases x s with ⟨failure | a, t⟩
  · rfl
  · rfl

@[simp]
theorem runOn_get (s : Session) : (get : Act Session).runOn s = (.ok s, s) := rfl

@[simp]
theorem runOn_modify (f : Session → Session) (s : Session) :
    (modify f : Act Unit).runOn s = (.ok (), f s) := rfl

@[simp]
theorem runOn_set (s t : Session) : (set t : Act Unit).runOn s = (.ok (), t) := rfl

@[simp]
theorem runOn_ofExcept (x : Except Failure α) (s : Session) : (ofExcept x).runOn s = (x, s) := rfl

@[simp]
theorem runOn_record (level : LogLevel) (channel : LogChannel) (text : Text) (s : Session) :
    (record level channel text).runOn s =
      (.ok (), { s with journal := s.journal.record level channel text }) := rfl

@[simp]
theorem runOn_ofTraced (x : Traced α) (s : Session) :
    (ofTraced x).runOn s =
      (x.outcome, { s with journal := s.journal.addRecords x.log }) := rfl

/-- Work with the scope adds what the scope noted, whatever its outcome. -/
theorem runOn_ofScope (f : PropertySource → LazyScope → LazyScope.Step α) (s : Session) :
    ∃ outcome scope journal,
      (ofScope f).runOn s = (outcome, { s with scope := scope, journal := journal }) :=
  ⟨_, _, _, rfl⟩

/-! ## What acts keep -/

/-- Some part of the session is the same afterwards. -/
def Keeps (part : Session → γ) (x : Act α) : Prop :=
  ∀ s, part (x.runOn s).2 = part s

namespace Keeps

variable {part : Session → γ} {x : Act α}

theorem bind {f : α → Act β} (hx : Keeps part x) (hf : ∀ a, Keeps part (f a)) :
    Keeps part (x >>= f) := by
  intro s
  have hs := hx s
  rw [runOn_bind]
  generalize x.runOn s = r at hs ⊢
  obtain ⟨failure | a, t⟩ := r
  · exact hs
  · exact (hf a t).trans hs

theorem tryCatch {handle : Failure → Act α} (hx : Keeps part x)
    (hhandle : ∀ failure, Keeps part (handle failure)) :
    Keeps part (MonadExcept.tryCatch x handle) := by
  intro s
  have hs := hx s
  rw [runOn_tryCatch]
  generalize x.runOn s = r at hs ⊢
  obtain ⟨failure | a, t⟩ := r
  · exact (hhandle failure t).trans hs
  · exact hs

theorem forM {f : β → Act Unit} {xs : List β} (h : ∀ x ∈ xs, Keeps part (f x)) :
    Keeps part (xs.forM f) := by
  induction xs with
  | nil => exact fun _ => rfl
  | cons x xs ih =>
    exact (h x List.mem_cons_self).bind fun _ => ih fun y hy => h y (List.mem_cons_of_mem _ hy)

end Keeps

/-! ## How acts fail -/

/-- Every failure is of a certain kind. -/
def FailsOnly (kind : Failure → Prop) (x : Act α) : Prop :=
  ∀ s failure, (x.runOn s).1 = .error failure → kind failure

namespace FailsOnly

variable {kind : Failure → Prop} {x : Act α}

theorem bind {f : α → Act β} (hx : FailsOnly kind x) (hf : ∀ a, FailsOnly kind (f a)) :
    FailsOnly kind (x >>= f) := by
  intro s failure h
  have hs := hx s
  rw [runOn_bind] at h
  generalize x.runOn s = r at hs h
  obtain ⟨e | a, t⟩ := r
  · obtain rfl : e = failure := Except.error.inj h
    exact hs e rfl
  · exact hf a t failure h

/-- Only what handles failures can fail. -/
theorem tryCatch {handle : Failure → Act α} (h : ∀ failure, FailsOnly kind (handle failure)) :
    FailsOnly kind (MonadExcept.tryCatch x handle) := by
  intro s failure hfail
  rw [runOn_tryCatch] at hfail
  generalize x.runOn s = r at hfail
  obtain ⟨e | a, t⟩ := r
  · exact h e t failure hfail
  · cases hfail

theorem throw {failure : Failure} (h : kind failure) :
    FailsOnly kind (MonadExcept.throw failure : Act α) := by
  rintro s failure' ⟨⟩
  exact h

theorem forM {f : β → Act Unit} {xs : List β} (h : ∀ x ∈ xs, FailsOnly kind (f x)) :
    FailsOnly kind (xs.forM f) := by
  induction xs with
  | nil => exact fun _ _ h => nomatch h
  | cons x xs ih =>
    exact (h x List.mem_cons_self).bind fun _ => ih fun y hy => h y (List.mem_cons_of_mem _ hy)

end FailsOnly

end Act

end LiveConfig
