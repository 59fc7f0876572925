import LiveConfig.Proofs.Scope.Moves

/-!
# Scopes that only grow

Whoever does nothing to a scope but fetch adds instances.  They stand behind those that are there
and are numbered above all numbers so far; the components stay as they are.

**Results.**
* `ScopeMove.grows`, `LazyScope.Fetched.grows`: fetching makes a scope grow.
* `LazyScope.Grows.get?`: what was there is still there.
-/

namespace LiveConfig

namespace LazyScope

variable {s t u : LazyScope}

/-- Nothing has happened to a scope but that instances were added. -/
structure Grows (s t : LazyScope) : Prop where
  sound : t.Sound
  components_eq : t.components = s.components
  built_le : s.built ≤ t.built
  exists_fresh : ∃ fresh, t.instances.entries = s.instances.entries ++ fresh ∧
    ∀ e ∈ fresh, s.built < e.2.number

namespace Grows

theorem refl (hs : s.Sound) : s.Grows s :=
  ⟨hs, rfl, Nat.le_refl _, [], (List.append_nil _).symm, List.forall_mem_nil _⟩

theorem trans (hst : s.Grows t) (htu : t.Grows u) : s.Grows u := by
  obtain ⟨fresh, hentries, hfresh⟩ := hst.exists_fresh
  obtain ⟨fresh', hentries', hfresh'⟩ := htu.exists_fresh
  refine ⟨htu.sound, htu.components_eq.trans hst.components_eq,
    Nat.le_trans hst.built_le htu.built_le, fresh ++ fresh', ?_, fun e he => ?_⟩
  · rw [hentries', hentries, List.append_assoc]
  · rcases List.mem_append.mp he with he | he
    · exact hfresh e he
    · exact Nat.lt_of_le_of_lt hst.built_le (hfresh' e he)

/-- An instance that was there is still there. -/
theorem get? (h : s.Grows t) {name : Text} {i : Instance}
    (hi : s.instances.get? name = some i) : t.instances.get? name = some i := by
  obtain ⟨fresh, hentries, -⟩ := h.exists_fresh
  have hmem : (name, i) ∈ t.instances.entries := by
    rw [hentries]
    exact List.mem_append_left _ (Table.mem_entries_iff.mpr hi)
  exact Table.mem_entries_iff.mp hmem

/-- What is used up does not come back by growing. -/
theorem gone (h : s.Grows t) {number : Nat} (hs : s.Gone number) : t.Gone number := by
  obtain ⟨fresh, hentries, hfresh⟩ := h.exists_fresh
  refine ⟨Nat.le_trans hs.used h.built_le, fun name i hi hnumber => ?_⟩
  have hmem := Table.mem_entries_iff (e := (name, i)).mpr hi
  rw [hentries] at hmem
  rcases List.mem_append.mp hmem with hold | hnew
  · exact hs.absent name i (Table.mem_entries_iff.mp hold) hnumber
  · have hlt : s.built < i.number := hfresh (name, i) hnew
    have hle := hs.used
    omega

end Grows

/-- The scopes that come of a scope by fetching from it. -/
inductive Fetched (s : LazyScope) : LazyScope → Prop
  | refl : Fetched s s
  | fetch {t : LazyScope} (properties : PropertySource) (name : Text) :
      Fetched s t → Fetched s (fetch properties name t).2.silent

end LazyScope

open LazyScope

/-- A fetch adds one instance at most. -/
theorem ScopeMove.grows
    {s t : LazyScope} {name : Text} {answer : Except Failure ScopeAnswer} {own : List Note}
    (h : ScopeMove s (.fetch name) answer own t) (hs : s.Sound) : s.Grows t := by
  have hsound := h.sound hs trivial
  cases h with
  | cached _ hi => exact .refl hs
  | unknown _ hi hr => exact .refl hs
  | failed _ failure hi hr =>
    exact ⟨hsound, components_countCall hr, Nat.le_refl _, [], (List.append_nil _).symm,
      List.forall_mem_nil _⟩
  | @built _ r v hi hr =>
    refine ⟨hsound, components_countCall hr, Nat.le_succ _, [(name, s.nextInstance r v)],
      Table.entries_insert_of_get? hi _, fun e he => ?_⟩
    obtain rfl := List.mem_singleton.mp he
    exact Nat.lt_succ_self s.built

namespace LazyScope.Fetched

/-- Fetching makes a scope grow. -/
theorem grows {s t : LazyScope} (h : s.Fetched t) (hs : s.Sound) : s.Grows t := by
  induction h with
  | refl => exact .refl hs
  | @fetch t properties name _ ih =>
    obtain ⟨outcome, u, own, log, hfetch, hmove⟩ := exists_fetch ih.sound properties name
    have hafter : (LazyScope.fetch properties name t).2.silent = u := by
      rw [hfetch]
      unfold silent
      rw [← hmove.journal_eq ih.sound.silent]
    rw [hafter]
    exact ih.trans (hmove.grows ih.sound)

end LazyScope.Fetched

end LiveConfig
