import LiveConfig.Proofs.Table
import LiveConfig.Scope.Basic

/-!
# What a scope looks up

Of the configuration a scope reads only the properties that its factories name.  Factories come by
registering only, so whatever is fetched and discarded, no other properties are looked up.  Two
configurations that agree on these properties are the same for the scope.

**Results.**
* `LazyScope.fetch_congr`, `LazyScope.clear_congr`: fetching and discarding are the same under
  configurations that agree on what the factories look up.
-/

namespace LiveConfig

namespace LazyScope

variable {keys : Value → Prop} {s t : LazyScope} {p q : PropertySource} {α : Type}

/-- A factory of the scope looks a property up in one of its calls. -/
def LooksUp (s : LazyScope) (key : Value) : Prop :=
  ∃ name r n, s.registrations.get? name = some r ∧ r.factory n = .property key

/-- The factories look up certain properties only. -/
def Confined (s : LazyScope) (keys : Value → Prop) : Prop :=
  ∀ key, s.LooksUp key → keys key

/-- A call of a factory does not change what factories do in their calls. -/
theorem exists_factory_eq
    {name other : Text} {r r' : Registration} (hr : s.registrations.get? name = some r)
    (hr' : (s.countCall name r).registrations.get? other = some r') :
    ∃ q, s.registrations.get? other = some q ∧ q.factory = r'.factory := by
  have hget : (s.registrations.insert name { r with calls := r.calls + 1 }).get? other =
      some r' := hr'
  rw [Table.get?_insert] at hget
  split at hget
  · rename_i hsame
    obtain rfl : name = other := eq_of_beq hsame
    obtain rfl := Option.some.inj hget
    exact ⟨r, hr, rfl⟩
  · exact ⟨r', hget, rfl⟩

namespace Confined

theorem of_registrations_eq
    (hs : s.Confined keys) (h : t.registrations = s.registrations) : t.Confined keys := by
  unfold Confined LooksUp
  rw [h]
  exact hs

theorem countCall
    {name : Text} {r : Registration} (hs : s.Confined keys)
    (hr : s.registrations.get? name = some r) : (s.countCall name r).Confined keys := by
  rintro key ⟨other, r', n, hr', hcall⟩
  obtain ⟨q, hq, hfactory⟩ := exists_factory_eq hr hr'
  exact hs key ⟨other, q, n, hq, hfactory ▸ hcall⟩

theorem finishFetch
    {name : Text} {r : Registration} {x : Step Value} (hx : x.2.Confined keys) :
    (LazyScope.finishFetch name r x).2.Confined keys := by
  obtain ⟨failure | v, t⟩ := x
  · exact hx
  · exact hx.of_registrations_eq rfl

theorem absorbDestroy
    {x : Step Unit} (hx : x.2.Confined keys) (name : Text) :
    (LazyScope.absorbDestroy name x).2.Confined keys := by
  obtain ⟨failure | _, t⟩ := x
  · unfold LazyScope.absorbDestroy
    dsimp only
    split
    · exact hx.of_registrations_eq rfl
    · exact hx
  · exact hx

end Confined

/-! ## Two configurations that agree -/

/-- Two steps are one and the same, and the factories are confined afterwards. -/
def SameStep (keys : Value → Prop) (x y : Step α) : Prop :=
  x = y ∧ x.2.Confined keys

section Congr

variable (hpq : ∀ key, keys key → p key = q key)
include hpq

theorem fetchWithin_congr (n : Nat) (name : Text) (hs : s.Confined keys) :
    SameStep keys (fetchWithin p n name s) (fetchWithin q n name s) := by
  induction n generalizing name s with
  | zero => exact ⟨rfl, hs⟩
  | succ n ih =>
    unfold fetchWithin
    cases hi : s.instances.get? name with
    | some i => exact ⟨rfl, hs⟩
    | none =>
      cases hr : s.registrations.get? name with
      | none => exact ⟨rfl, hs⟩
      | some r =>
        have hcounted := hs.countCall hr
        dsimp only
        cases hcall : r.factory (r.calls + 1) with
        | value v => exact ⟨rfl, hcounted.finishFetch (x := (.ok v, _))⟩
        | property key =>
          have hkey : p key = q key := hpq key (hs key ⟨name, r, _, hr, hcall⟩)
          dsimp only
          rw [hkey]
          exact ⟨rfl, hcounted.finishFetch (x := (q key, _))⟩
        | component other =>
          obtain ⟨hsame, hother⟩ := ih other hcounted
          dsimp only
          rw [← hsame]
          exact ⟨rfl, hother.finishFetch (x := valueOf _)⟩
        | fail failure => exact ⟨rfl, hcounted.finishFetch (x := (.error failure, _))⟩

/-- A fetch asks for the properties of the factories only. -/
theorem fetch_congr (name : Text) (hs : s.Confined keys) :
    SameStep keys (fetch p name s) (fetch q name s) :=
  fetchWithin_congr hpq fetchLimit name hs

theorem runDestroy_congr (actions : List DestroyAction) (hs : s.Confined keys) :
    SameStep keys (runDestroy p actions s) (runDestroy q actions s) := by
  induction actions generalizing s with
  | nil => exact ⟨rfl, hs⟩
  | cons action rest ih =>
    cases action with
    | fail failure => exact ⟨rfl, hs⟩
    | fetch name =>
      obtain ⟨hsame, hfetched⟩ := fetch_congr hpq name hs
      unfold runDestroy
      rw [← hsame]
      generalize fetch p name s = x at hfetched ⊢
      obtain ⟨failure | i, t⟩ := x
      · exact ⟨rfl, hfetched⟩
      · exact ih (s := t.note (.got name i.value)) (hfetched.of_registrations_eq rfl)
    | ask name => exact ih (s := s.note _) (hs.of_registrations_eq rfl)

theorem discard_congr (name : Text) (hs : s.Confined keys) :
    SameStep keys (discard p name s) (discard q name s) := by
  have hdropped : (s.drop name).Confined keys := hs.of_registrations_eq rfl
  unfold discard
  cases s.instances.get? name with
  | none => exact ⟨rfl, hs⟩
  | some i =>
    dsimp only
    cases ((s.drop name).registrations.get? name).bind Registration.destroy with
    | none => exact ⟨rfl, hdropped⟩
    | some actions =>
      obtain ⟨hsame, hran⟩ := runDestroy_congr hpq actions
        (s := (s.drop name).note (.destroy name i.value)) (hdropped.of_registrations_eq rfl)
      have habsorbed := hran.absorbDestroy name
      dsimp only
      rw [← hsame]
      generalize absorbDestroy name (runDestroy p actions
        ((s.drop name).note (.destroy name i.value))) = x at habsorbed ⊢
      obtain ⟨failure | _, t⟩ := x
      · exact ⟨rfl, habsorbed⟩
      · exact ⟨rfl, habsorbed⟩

theorem discardAll_congr (names : List Text) (hs : s.Confined keys) :
    SameStep keys (discardAll p names s) (discardAll q names s) := by
  induction names generalizing s with
  | nil => exact ⟨rfl, hs⟩
  | cons name rest ih =>
    obtain ⟨hsame, hdiscarded⟩ := discard_congr hpq name hs
    unfold discardAll
    rw [← hsame]
    generalize discard p name s = x at hdiscarded ⊢
    obtain ⟨failure | b, t⟩ := x
    · exact ⟨rfl, hdiscarded⟩
    · exact ih hdiscarded

/-- Discarding all instances asks for the properties of the factories only. -/
theorem clear_congr (hs : s.Confined keys) : SameStep keys (clear p s) (clear q s) :=
  discardAll_congr hpq s.instances.keys hs

end Congr

end LazyScope

end LiveConfig
