import LiveConfig.Proofs.Session.Lockstep

/-!
# Acts that only add to the journal

Nothing that publishing and refreshing a scope do depends on what was noted and logged before.  An
act of this kind, run from a session with more in front of its journal, comes to the same outcome
and to the same session with that much more in front (`Act.OnlyAdds`).  So two runs from sessions
that differ in their journals only differ in nothing else afterwards.

**Results.**
* `Act.onlyAdds_publishIf`, `Act.onlyAdds_refreshInstances`: publishing and discarding instances
  only add to the journal.
-/

namespace LiveConfig

namespace Journal

theorem append_def (j k : Journal) : j ++ k = ⟨j.notes ++ k.notes, j.log ++ k.log⟩ := rfl

theorem append_assoc (i j k : Journal) : i ++ j ++ k = i ++ (j ++ k) := by
  simp [append_def]

theorem append_empty (j : Journal) : j ++ empty = j := by
  simp [append_def, empty]

theorem append_note (j k : Journal) (n : Note) : (j ++ k).note n = j ++ k.note n := by
  simp [append_def, note]

theorem append_addRecords (j k : Journal) (log : List LogRecord) :
    (j ++ k).addRecords log = j ++ k.addRecords log := by
  simp [append_def, addRecords]

end Journal

/-- A session with something in front of its journal. -/
def Session.prepend (s : Session) (journal : Journal) : Session :=
  { s with journal := journal ++ s.journal }

namespace Act

variable {α β : Type}

/-- The outcome does not depend on the journal, which is only added to. -/
def OnlyAdds (x : Act α) : Prop :=
  ∀ s journal, x.runOn (s.prepend journal) = ((x.runOn s).1, (x.runOn s).2.prepend journal)

namespace OnlyAdds

variable {x : Act α}

theorem bind {f : α → Act β} (hx : OnlyAdds x) (hf : ∀ a, OnlyAdds (f a)) :
    OnlyAdds (x >>= f) := by
  intro s journal
  rw [runOn_bind, runOn_bind, hx s journal]
  generalize x.runOn s = r
  obtain ⟨failure | a, t⟩ := r
  · rfl
  · exact hf a t journal

/-- Two runs from sessions that differ in their journals only. -/
theorem runOn_journal (hx : OnlyAdds x) (s : Session) (journal : Journal) :
    x.runOn { s with journal := journal } =
      ((x.runOn { s with journal := Journal.empty }).1,
        (x.runOn { s with journal := Journal.empty }).2.prepend journal) := by
  have hrun := hx { s with journal := Journal.empty } journal
  rwa [Session.prepend, Journal.append_empty] at hrun

end OnlyAdds

/-! ## Single steps -/

theorem onlyAdds_throw (failure : Failure) : OnlyAdds (throw failure : Act α) :=
  fun _ _ => rfl

theorem onlyAdds_ofExcept (x : Except Failure α) : OnlyAdds (ofExcept x) :=
  fun _ _ => rfl

/-- What is read from the session is not the journal. -/
theorem onlyAdds_get_bind
    {f : Session → Act α} (hread : ∀ s journal, f (s.prepend journal) = f s)
    (hf : ∀ s, OnlyAdds (f s)) : OnlyAdds (get >>= f) := by
  intro s journal
  rw [runOn_bind, runOn_bind, runOn_get, runOn_get]
  exact (congrArg (fun x => x.runOn (s.prepend journal)) (hread s journal)).trans (hf s s journal)

theorem onlyAdds_modify
    {f : Session → Session} (hf : ∀ s journal, f (s.prepend journal) = (f s).prepend journal) :
    OnlyAdds (modify f : Act Unit) := by
  intro s journal
  rw [runOn_modify, runOn_modify, hf]

theorem onlyAdds_note (n : Note) : OnlyAdds (note n) :=
  onlyAdds_modify fun s journal => by
    simp only [Session.prepend, Journal.append_note]

theorem onlyAdds_addRecords (log : List LogRecord) :
    OnlyAdds (modify fun s => { s with journal := s.journal.addRecords log }) :=
  onlyAdds_modify fun s journal => by
    simp only [Session.prepend, Journal.append_addRecords]

theorem onlyAdds_record (level : LogLevel) (channel : LogChannel) (text : Text) :
    OnlyAdds (record level channel text) :=
  onlyAdds_addRecords _

theorem onlyAdds_ofTraced (x : Traced α) : OnlyAdds (ofTraced x) :=
  (onlyAdds_addRecords _).bind fun _ => onlyAdds_ofExcept _

/-- The scope works with a journal of its own, which is added at the end. -/
theorem onlyAdds_ofScope (f : PropertySource → LazyScope → LazyScope.Step α) :
    OnlyAdds (ofScope f) := by
  intro s journal
  refine Prod.ext rfl ?_
  exact congrArg (fun j => { (ofScope f |>.runOn s).2 with journal := j })
    (Journal.append_assoc _ _ _)

/-! ## Publishing -/

/-- An act only adds to the journal if it runs alike whatever stands in front of that. -/
theorem onlyAdds_iff {x : Act α} :
    OnlyAdds x ↔ ∀ journal, RunAlike (fun s t => t = s.prepend journal) x x := by
  constructor
  · rintro h journal s t rfl
    rw [h s journal]
    exact ⟨rfl, rfl⟩
  · intro h s journal
    obtain ⟨houtcome, hafter⟩ := h journal s (s.prepend journal) rfl
    exact Prod.ext houtcome.symm hafter

/-- No listener sees what was noted and logged before. -/
theorem lockstep_prepend (journal : Journal) :
    Lockstep (fun _ => True) fun s t => t = s.prepend journal where
  publisher_eq := by
    rintro s t rfl
    rfl
  listeners_eq := by
    rintro s t rfl
    rfl
  isActive_eq := by
    rintro s t rfl name
    rfl
  confines _ _ _ _ _ _ := trivial
  property_eq := by
    rintro s t key rfl -
    rfl
  subscribed := by
    rintro s t rfl p
    rfl
  note n := onlyAdds_iff.mp (onlyAdds_note n) journal
  record level channel text := onlyAdds_iff.mp (onlyAdds_record level channel text) journal
  fetch _ := onlyAdds_iff.mp (onlyAdds_ofScope _) journal

theorem onlyAdds_publishIf (publishes : Bool) (event : Event) :
    OnlyAdds (publishIf publishes event) :=
  onlyAdds_iff.mpr fun journal => (lockstep_prepend journal).publishIf publishes event

theorem onlyAdds_refreshInstances (publishes : Bool) : OnlyAdds (refreshInstances publishes) :=
  (onlyAdds_ofScope _).bind fun _ => onlyAdds_publishIf publishes _

end Act

end LiveConfig
