/-!
# Computations that can fail

A computation in parts succeeds only if every part does.  Here this is read backwards: from a
success of the whole, what its parts came to.
-/

namespace LiveConfig

variable {ε α β : Type}

/-- A part that succeeds hands its result on. -/
theorem ok_bind (a : α) (f : α → Except ε β) : (Except.ok a >>= f) = f a := rfl

/-- A computation succeeds if its first part does and the rest does with what came of it. -/
theorem exists_ok_of_bind
    {x : Except ε α} {f : α → Except ε β} {b : β} (h : x >>= f = .ok b) :
    ∃ a, x = .ok a ∧ f a = .ok b := by
  cases x with
  | error failure => cases h
  | ok a => exact ⟨a, rfl, h⟩

theorem exists_ok_of_map
    {x : Except ε α} {f : α → β} {b : β} (h : x.map f = .ok b) : ∃ a, x = .ok a ∧ f a = b := by
  cases x with
  | error failure => cases h
  | ok a => exact ⟨a, rfl, Except.ok.inj h⟩

theorem eq_error_of_map
    {x : Except ε α} {f : α → β} {failure : ε} (h : x.map f = .error failure) :
    x = .error failure := by
  cases x with
  | error other => exact congrArg Except.error (Except.error.inj h)
  | ok a => cases h

/-- A member of a list that was mapped without failing has an origin. -/
theorem exists_mem_of_mapM
    {f : α → Option β} {xs : List α} {ys : List β} (h : xs.mapM f = some ys) {y : β} (hy : y ∈ ys) :
    ∃ x ∈ xs, f x = some y := by
  induction xs generalizing ys with
  | nil =>
    obtain rfl : [] = ys := by simpa using h
    cases hy
  | cons x xs ih =>
    rw [List.mapM_cons] at h
    obtain ⟨first, hfirst, hrest⟩ := Option.bind_eq_some_iff.mp h
    obtain ⟨rest, hxs, hys⟩ := Option.bind_eq_some_iff.mp hrest
    obtain rfl : first :: rest = ys := Option.some.inj hys
    rcases List.mem_cons.mp hy with rfl | hmem
    · exact ⟨x, List.mem_cons_self, hfirst⟩
    · obtain ⟨x', hx', hfx'⟩ := ih hxs hmem
      exact ⟨x', List.mem_cons_of_mem _ hx', hfx'⟩

theorem exists_mem_of_mapM_ok
    {f : α → Except ε β} {xs : List α} {ys : List β} (h : xs.mapM f = .ok ys)
    {y : β} (hy : y ∈ ys) :
    ∃ x ∈ xs, f x = .ok y := by
  induction xs generalizing ys with
  | nil =>
    obtain rfl : [] = ys := Except.ok.inj h
    cases hy
  | cons x xs ih =>
    rw [List.mapM_cons] at h
    obtain ⟨first, hfirst, hrest⟩ := exists_ok_of_bind h
    obtain ⟨rest, hxs, hys⟩ := exists_ok_of_bind hrest
    obtain rfl : first :: rest = ys := Except.ok.inj hys
    rcases List.mem_cons.mp hy with rfl | hmem
    · exact ⟨x, List.mem_cons_self, hfirst⟩
    · obtain ⟨x', hx', hfx'⟩ := ih hxs hmem
      exact ⟨x', List.mem_cons_of_mem _ hx', hfx'⟩

/-- A list is mapped without failing if none of its members makes it fail. -/
theorem exists_mapM_ok_iff {f : α → Except ε β} {xs : List α} :
    (∃ ys, xs.mapM f = .ok ys) ↔ ∀ x ∈ xs, ∃ y, f x = .ok y := by
  induction xs with
  | nil => exact iff_of_true ⟨[], rfl⟩ (by simp)
  | cons x xs ih =>
    rw [List.mapM_cons, List.forall_mem_cons, ← ih]
    constructor
    · rintro ⟨ys, h⟩
      obtain ⟨y, hy, hrest⟩ := exists_ok_of_bind h
      obtain ⟨rest, hxs, -⟩ := exists_ok_of_bind hrest
      exact ⟨⟨y, hy⟩, rest, hxs⟩
    · rintro ⟨⟨y, hy⟩, rest, hxs⟩
      rw [hy, hxs]
      exact ⟨y :: rest, rfl⟩

/-- What the members of the image have of their origins, they have in order. -/
theorem map_of_mapM
    {γ : Type} {f : α → Option β} {g : α → γ} {g' : β → γ} {xs : List α} {ys : List β}
    (h : xs.mapM f = some ys) (hg : ∀ x y, f x = some y → g' y = g x) :
    ys.map g' = xs.map g := by
  induction xs generalizing ys with
  | nil =>
    obtain rfl : [] = ys := by simpa using h
    rfl
  | cons x xs ih =>
    rw [List.mapM_cons] at h
    obtain ⟨first, hfirst, hrest⟩ := Option.bind_eq_some_iff.mp h
    obtain ⟨rest, hxs, hys⟩ := Option.bind_eq_some_iff.mp hrest
    obtain rfl : first :: rest = ys := Option.some.inj hys
    rw [List.map_cons, List.map_cons, hg x first hfirst, ih hxs]

/-! ## Kinds of failure -/

/-- Every failure of a computation is of a certain kind. -/
def FailsWith (kind : ε → Prop) (x : Except ε α) : Prop :=
  ∀ failure, x = .error failure → kind failure

namespace FailsWith

variable {kind : ε → Prop} {x : Except ε α}

theorem ok (a : α) : FailsWith kind (.ok a : Except ε α) :=
  fun _ h => nomatch h

theorem error {failure : ε} (h : kind failure) : FailsWith kind (.error failure : Except ε α) :=
  fun _ hfailure => Except.error.inj hfailure ▸ h

theorem mono
    {kind' : ε → Prop} (hx : FailsWith kind x) (h : ∀ failure, kind failure → kind' failure) :
    FailsWith kind' x :=
  fun failure hfailure => h failure (hx failure hfailure)

theorem bind_of_ok
    {f : α → Except ε β} (hx : FailsWith kind x) (hf : ∀ a, x = .ok a → FailsWith kind (f a)) :
    FailsWith kind (x >>= f) := by
  cases x with
  | error failure => exact .error (hx failure rfl)
  | ok a => exact hf a rfl

theorem bind {f : α → Except ε β} (hx : FailsWith kind x) (hf : ∀ a, FailsWith kind (f a)) :
    FailsWith kind (x >>= f) :=
  hx.bind_of_ok fun a _ => hf a

theorem map {f : α → β} (hx : FailsWith kind x) : FailsWith kind (x.map f) :=
  fun failure h => hx failure (eq_error_of_map h)

theorem mapM {f : α → Except ε β} {xs : List α} (h : ∀ x ∈ xs, FailsWith kind (f x)) :
    FailsWith kind (xs.mapM f) := by
  induction xs with
  | nil => exact .ok []
  | cons x xs ih =>
    obtain ⟨hx, hxs⟩ := List.forall_mem_cons.mp h
    rw [List.mapM_cons]
    exact hx.bind fun y => (ih hxs).bind fun ys => .ok (y :: ys)

end FailsWith

/-! ## Steps with a state -/

section Steps

variable {σ : Type}

/-- What comes first decides whether the rest runs. -/
theorem run_bind
    (x : ExceptT ε (StateM σ) α) (f : α → ExceptT ε (StateM σ) β) (s : σ) :
    (x >>= f).run s =
      match x.run s with
      | (.ok a, t) => (f a).run t
      | (.error failure, t) => (.error failure, t) := by
  show (match x s with | (outcome, t) => (ExceptT.bindCont f outcome) t) = _
  unfold ExceptT.run
  rcases x s with ⟨failure | a, t⟩
  · rfl
  · rfl

theorem run_bind_of_ok
    {x : ExceptT ε (StateM σ) α} {s t : σ} {a : α} (h : x.run s = (.ok a, t))
    (f : α → ExceptT ε (StateM σ) β) : (x >>= f).run s = (f a).run t := by
  rw [run_bind, h]

theorem run_bind_of_error
    {x : ExceptT ε (StateM σ) α} {s t : σ} {failure : ε} (h : x.run s = (.error failure, t))
    (f : α → ExceptT ε (StateM σ) β) : (x >>= f).run s = (.error failure, t) := by
  rw [run_bind, h]

/-- A success came from the first part and then the rest. -/
theorem exists_run_of_bind
    {x : ExceptT ε (StateM σ) α} {f : α → ExceptT ε (StateM σ) β} {s u : σ} {b : β}
    (h : (x >>= f).run s = (.ok b, u)) :
    ∃ a t, x.run s = (.ok a, t) ∧ (f a).run t = (.ok b, u) := by
  rw [run_bind] at h
  rcases hx : x.run s with ⟨failure | a, t⟩
  · rw [hx] at h
    cases (Prod.mk.inj h).1
  · rw [hx] at h
    exact ⟨a, t, rfl, h⟩

/-- All failures of two steps are of one kind if those of each step are. -/
theorem failsWith_run_bind
    {kind : ε → Prop} {x : ExceptT ε (StateM σ) α} {f : α → ExceptT ε (StateM σ) β}
    (hx : ∀ s, FailsWith kind (x.run s).1) (hf : ∀ a s, FailsWith kind ((f a).run s).1) (s : σ) :
    FailsWith kind ((x >>= f).run s).1 := by
  have hfirst := hx s
  rw [run_bind]
  generalize x.run s = result at hfirst ⊢
  obtain ⟨failure | a, t⟩ := result
  · exact .error (hfirst failure rfl)
  · exact hf a t

theorem run_get (s : σ) : (get : ExceptT ε (StateM σ) σ).run s = (.ok s, s) := rfl

theorem run_set (s t : σ) : (set t : ExceptT ε (StateM σ) Unit).run s = (.ok (), t) := rfl

theorem run_modify (f : σ → σ) (s : σ) :
    (modify f : ExceptT ε (StateM σ) Unit).run s = (.ok (), f s) := rfl

theorem run_pure (a : α) (s : σ) : (pure a : ExceptT ε (StateM σ) α).run s = (.ok a, s) := rfl

end Steps

end LiveConfig
