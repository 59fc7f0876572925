import LiveConfig.Text.Basic
import Mathlib.Data.List.Basic

/-!
# The order of texts

Texts are ordered by the numbers of their code points, from the first one on.  Different texts have
different numbers, so this is a linear order.

**Results.**
* `Text.not_isBefore_trans`, `Text.not_isBefore_total`, `Text.isBefore_of_ne`: the order is linear.
* `Text.ascending_sorted`: entries with different keys ascend strictly once they are sorted.
-/

namespace LiveConfig

theorem CodePoint.number_injective : Function.Injective CodePoint.number := by
  intro p q h
  have hchar (c : Char) (offset : Fin 2048) :
      (CodePoint.char c).number ≠ (CodePoint.surrogate offset).number := by
    have hvalid := c.valid
    have hlt := offset.isLt
    simp only [number, firstSurrogate, Char.toNat]
    simp only [UInt32.isValidChar, Nat.isValidChar] at hvalid
    omega
  cases p with
  | char c =>
    cases q with
    | char c' => exact congrArg CodePoint.char (Char.toNat_inj.mp h)
    | surrogate offset => exact absurd h (hchar c offset)
  | surrogate offset =>
    cases q with
    | char c => exact absurd h.symm (hchar c offset)
    | surrogate offset' =>
      exact congrArg CodePoint.surrogate (Fin.ext (Nat.add_left_cancel h))

namespace Text

/-- The numbers that texts are ordered by. -/
def numbers (t : Text) : List Nat :=
  t.points.map CodePoint.number

theorem numbers_injective : Function.Injective numbers := by
  rintro ⟨ps⟩ ⟨qs⟩ h
  exact congrArg Text.mk (List.map_injective_iff.mpr CodePoint.number_injective h)

theorem not_isBefore {t u : Text} : (!u.isBefore t) = true ↔ ¬u.numbers < t.numbers := by
  unfold isBefore
  rw [Bool.not_eq_true', decide_eq_false_iff_not]
  rfl

theorem not_isBefore_trans {t u w : Text}
    (htu : (!u.isBefore t) = true) (huw : (!w.isBefore u) = true) : (!w.isBefore t) = true := by
  rw [not_isBefore, List.not_lt] at htu huw ⊢
  exact List.le_trans htu huw

theorem not_isBefore_total (t u : Text) : (!u.isBefore t || !t.isBefore u) = true := by
  rw [Bool.or_eq_true, not_isBefore, not_isBefore, List.not_lt, List.not_lt]
  exact List.le_total _ _

theorem isBefore_of_ne {t u : Text} (h : (!u.isBefore t) = true) (hne : t ≠ u) :
    t.isBefore u = true := by
  by_contra hnot
  have hother : (!t.isBefore u) = true := by rwa [Bool.not_eq_true', ← Bool.not_eq_true]
  rw [not_isBefore, List.not_lt] at h hother
  exact hne (numbers_injective (List.le_antisymm h hother))

theorem append_assoc (t u w : Text) : t ++ u ++ w = t ++ (u ++ w) :=
  congrArg Text.mk (List.append_assoc _ _ _)

/-! ## Sorted entries -/

/-- Entries in the order of their keys. -/
def sorted {β : Type} (es : List (Text × β)) : List (Text × β) :=
  es.mergeSort fun a b => !b.1.isBefore a.1

theorem perm_sorted {β : Type} (es : List (Text × β)) : (sorted es).Perm es :=
  List.mergeSort_perm es _

/-- Keys that are different ascend strictly once they are sorted. -/
theorem ascending_sorted {β : Type} {es : List (Text × β)} (h : (es.map Prod.fst).Nodup) :
    (sorted es).Pairwise fun a b => a.1.isBefore b.1 = true := by
  have hsorted : (sorted es).Pairwise fun a b => (!b.1.isBefore a.1) = true := by
    refine List.pairwise_mergeSort (fun a b c hab hbc => ?_) (fun a b => ?_) es
    · exact not_isBefore_trans hab hbc
    · exact not_isBefore_total a.1 b.1
  have hnodup := ((perm_sorted es).map Prod.fst).nodup_iff.mpr h
  exact hsorted.imp₂ (fun a b hle hne => isBefore_of_ne hle hne) (List.pairwise_map.mp hnodup)

end Text

end LiveConfig
