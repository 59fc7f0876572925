import LiveConfig.Layer.Extract
import LiveConfig.Proofs.Stack.Merge
import Mathlib.Data.List.Forall2

/-!
# Stacks that differ in their standard layers only

A snapshot and a merge know a standard layer by its name and look no further.  Lists with the same
names in the same order, and with the same layers but for the standard ones, have the same
snapshot.  If such lists are merged into such lists, the results are of this kind again: a standard
layer anchors what comes after it whatever stands in it.

**Results.**
* `MergeRules.Alike.extract_eq`: the snapshot of a list does not depend on its standard layers.
* `MergeRules.Alike.place`, `MergeRules.exists_alike_merge`: neither does what a merge does to the
  others.
-/

namespace LiveConfig

namespace MergeRules

variable {rules : MergeRules} {xs ys : List Layer} {x y : Layer}

/-- Two layers of one name, which are the same unless the name is standard. -/
structure Twins (rules : MergeRules) (x y : Layer) : Prop where
  name_eq : x.name = y.name
  eq_of_not_standard : rules.standard.contains x.name = false → x = y

theorem Twins.refl (rules : MergeRules) (x : Layer) : rules.Twins x x :=
  ⟨rfl, fun _ => rfl⟩

/-- The same names in the same order, and the same layers but for the standard ones. -/
def Alike (rules : MergeRules) (xs ys : List Layer) : Prop :=
  List.Forall₂ rules.Twins xs ys

namespace Alike

theorem names_eq (h : rules.Alike xs ys) : xs.map Layer.name = ys.map Layer.name := by
  induction h with
  | nil => rfl
  | cons hxy _ ih => rw [List.map_cons, List.map_cons, hxy.name_eq, ih]

/-- Leaving out the layers of a name leaves out the same ones. -/
theorem filter_ne (h : rules.Alike xs ys) (name : Text) :
    rules.Alike (xs.filter fun l => l.name != name) (ys.filter fun l => l.name != name) := by
  induction h with
  | nil => exact .nil
  | @cons x y xs ys hxy _ ih =>
    rw [List.filter_cons, List.filter_cons, hxy.name_eq]
    split
    · exact .cons hxy ih
    · exact ih

/-! ## Snapshots -/

theorem writeTops_eq (h : rules.Alike xs ys) (snapshot : Entries) :
    Layer.writeTops rules.standard xs snapshot = Layer.writeTops rules.standard ys snapshot := by
  induction h with
  | nil => rfl
  | @cons x y xs ys hxy _ ih =>
    rw [Layer.writeTops, Layer.writeTops, ih, ← hxy.name_eq]
    cases hstd : rules.standard.contains x.name with
    | true => rfl
    | false => rw [hxy.eq_of_not_standard hstd]

/-- The snapshot of a list does not depend on its standard layers. -/
theorem extract_eq (h : rules.Alike xs ys) :
    extract rules.standard xs = extract rules.standard ys := by
  unfold extract
  rw [h.writeTops_eq]

/-! ## Merges -/

theorem expand {f g : Layer → List Layer} (h : rules.Alike xs ys)
    (hfg : ∀ a b, rules.Twins a b → rules.Alike (f a) (g b)) (name : Text) :
    rules.Alike (Layer.expand name f xs) (Layer.expand name g ys) := by
  induction h with
  | nil => exact .nil
  | @cons a b xs ys hab _ ih =>
    rw [Layer.expand_cons, Layer.expand_cons, hab.name_eq]
    split
    · exact List.rel_append (hfg a b hab) ih
    · exact .cons hab ih

/-- An incoming layer goes to the same place. -/
theorem place (h : rules.Alike xs ys) (hxy : rules.Twins x y) (matched : Option Text) :
    rules.Alike (LiveConfig.place rules matched xs x) (LiveConfig.place rules matched ys y) := by
  cases hstd : rules.standard.contains x.name with
  | true =>
    rw [place_standard hstd, place_standard (hxy.name_eq ▸ hstd)]
    exact h
  | false =>
    obtain rfl := hxy.eq_of_not_standard hstd
    have hself : rules.Alike [x] [x] := .cons (.refl rules x) .nil
    unfold LiveConfig.place
    rw [hstd, ← h.names_eq]
    simp only [Bool.false_eq_true, if_false]
    split
    · exact h.expand (fun _ _ _ => hself) x.name
    · cases matched with
      | some anchor => exact h.expand (fun _ _ hab => .cons hab hself) anchor
      | none =>
        dsimp only
        split
        · exact h.expand (fun _ _ hab => .cons (.refl rules x) (.cons hab .nil)) rules.anchor
        · exact List.rel_append h hself

end Alike

/-- Runs of a merge that have come to lists of this kind and to the same name go on alike. -/
theorem exists_alike_steps
    {m n : Merging} (hanchored : m.Anchored) (hmatched : m.matched = n.matched)
    (hlive : rules.Alike m.live.layers n.live.layers) (h : rules.Alike xs ys) :
    ∃ m' n', (m.steps rules xs).outcome = .ok m' ∧ (n.steps rules ys).outcome = .ok n' ∧
      rules.Alike m'.live.layers n'.live.layers := by
  induction h generalizing m n with
  | nil => exact ⟨m, n, rfl, rfl, hlive⟩
  | @cons x y xs ys hxy _ ih =>
    have hnames : m.live.names = n.live.names := hlive.names_eq
    have hanchored' : n.Anchored := by
      unfold Merging.Anchored
      rw [← hmatched, ← hnames]
      exact hanchored
    obtain ⟨m', hm, hmlayers, hmmatched, -⟩ := Merging.step_ok rules hanchored x
    obtain ⟨n', hn, hnlayers, hnmatched, -⟩ := Merging.step_ok rules hanchored' y
    have hmatched' : m'.matched = n'.matched := by
      rw [hmmatched, hnmatched, Merging.matchedBy, Merging.matchedBy, hmatched, hnames, hxy.name_eq]
    have hlive' : rules.Alike m'.live.layers n'.live.layers := by
      rw [hmlayers, hnlayers, ← hmatched]
      exact hlive.place hxy m.matched
    obtain ⟨m'', n'', hm', hn', halike⟩ :=
      ih (hanchored.of_step hmlayers hmmatched) hmatched' hlive'
    exact ⟨m'', n'', (Traced.outcome_bind_of_ok hm).trans hm',
      (Traced.outcome_bind_of_ok hn).trans hn', halike⟩

/-- What a merge does to the other layers does not depend on the standard ones. -/
theorem exists_alike_merge
    {live live' : LayerStack} (hlive : rules.Alike live.layers live'.layers)
    (h : rules.Alike xs ys) :
    ∃ merged merged' report report',
      (merge rules live xs).outcome = .ok (merged, report) ∧
      (merge rules live' ys).outcome = .ok (merged', report') ∧
      rules.Alike merged.layers merged'.layers := by
  obtain ⟨m, n, hm, hn, halike⟩ :=
    exists_alike_steps (m := Merging.start live) (n := Merging.start live') (fun _ h => nomatch h)
      rfl hlive h
  exact ⟨m.live, n.live, m.report, n.report, outcome_merge hm, outcome_merge hn, halike⟩

end MergeRules

end LiveConfig
