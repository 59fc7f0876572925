import LiveConfig.Proofs.Table
import LiveConfig.Proofs.Value.Depth
import LiveConfig.Proofs.Value.Numbering
import LiveConfig.Value.Comparison

/-!
# Values that are equal to themselves

A comparison of a value with itself can fail for what is in it: a flawed value, a collection that
contains itself or lies too deep, a not-a-number, or a map with a key that cannot be found in it.
The last does not happen to values made of scalars (`Value.WellMade`), whose maps have distinct
scalars as keys.

The induction is on the levels of the comparison, which have to be more than the value is deep.

**Result.**
* `Value.equal?_self`: a well-made value that contains neither a not-a-number nor itself, and is not
  too deep to be compared, is equal to itself.
-/

namespace LiveConfig

namespace Value

/--
Made of scalars: the keys of maps and the members of sets are scalars, and no two keys are the same.
-/
inductive WellMade : Value → Prop
  | scalar {v : Value} (h : v.isScalar = true) : WellMade v
  | list {items : List Value} (h : ∀ x ∈ items, WellMade x) : WellMade (.list items)
  | tuple {items : List Value} (h : ∀ x ∈ items, WellMade x) : WellMade (.tuple items)
  | map {entries : List (Value × Value)} (hdistinct : DistinctKeys entries)
      (hkeys : ∀ e ∈ entries, e.1.isScalar = true) (h : ∀ e ∈ entries, WellMade e.2) :
      WellMade (.map entries)
  | set {members : List Value} (h : ∀ x ∈ members, x.isScalar = true) : WellMade (.set members)
  | again {form : CollectionForm} {number between : Nat} : WellMade (.again form number between)

/-! ## Scalars -/

/-- A scalar can serve as a key. -/
theorem beq_self_of_isScalar {v : Value} (h : v.isScalar = true) : (v == v) = true := by
  have hatoms : ∃ x, v.atoms? = some x := by
    cases v with
    | float x =>
      rw [atoms?]
      split
      · exact ⟨_, rfl⟩
      · split
        · exact ⟨_, rfl⟩
        · exact ⟨_, rfl⟩
    | moment m =>
      rw [atoms?]
      split
      · exact ⟨_, rfl⟩
      · exact ⟨_, rfl⟩
    | null | bool b | int n | str s | bytes data | date d => exact ⟨_, rfl⟩
    | list items | tuple items | map entries | set members => cases h
    | removed | flawed reason number | again form number between => cases h
  obtain ⟨x, hx⟩ := hatoms
  exact beq_iff_atoms.mpr ⟨x, hx, hx⟩

theorem valuesAgree_self_of_isScalar
    {v : Value} (h : v.isScalar = true) (hu : v.isUnnumbered = true)
    (agree : Value → Value → Except Refusal Bool) : valuesAgree agree v v = .ok true := by
  have hself := beq_self_of_isScalar h
  cases v with
  | float x =>
    have hnan : x.isNan = false := by simpa [isUnnumbered] using hu
    simp [valuesAgree, refusal?, equalLeaves, hnan, hself]
  | null | bool b | int n | str s | bytes data | date d | moment m =>
    exact congrArg Except.ok hself
  | list items | tuple items | map entries | set members => cases h
  | removed | flawed reason number | again form number between => cases h

/-! ## Collections -/

section Collections

variable {agree : Value → Value → Except Refusal Bool}

theorem itemsAgree_self {xs : List Value} (h : ∀ x ∈ xs, agree x x = .ok true) :
    itemsAgree agree xs xs = .ok true := by
  induction xs with
  | nil => rfl
  | cons x xs ih =>
    obtain ⟨hx, hxs⟩ := List.forall_mem_cons.mp h
    rw [itemsAgree, hx]
    exact ih hxs

theorem entriesAgree_of_found
    {es fs : List (Value × Value)}
    (h : ∀ e ∈ es, firstValue? e.1 fs = some e.2 ∧ agree e.2 e.2 = .ok true) :
    entriesAgree agree es fs = .ok true := by
  induction es with
  | nil => rfl
  | cons e es ih =>
    obtain ⟨⟨hfound, hagree⟩, hes⟩ := List.forall_mem_cons.mp h
    obtain ⟨k, x⟩ := e
    simp only [entriesAgree, hfound, hagree]
    exact ih hes

/-- Entries with distinct keys that equal themselves are found under their keys. -/
theorem entriesAgree_self
    {es : List (Value × Value)} (hdistinct : DistinctKeys es)
    (hkeys : ∀ e ∈ es, (e.1 == e.1) = true) (h : ∀ e ∈ es, agree e.2 e.2 = .ok true) :
    entriesAgree agree es es = .ok true := by
  refine entriesAgree_of_found fun e he => ⟨?_, h e he⟩
  exact (firstValue?_eq_some_iff hdistinct).mpr ⟨e.1, he, hkeys e he⟩

theorem membersAgree_self {xs : List Value} (h : ∀ x ∈ xs, (x == x) = true) :
    membersAgree xs xs = true := by
  have hall : (xs.all fun x => xs.any (· == x)) = true := by
    refine List.all_eq_true.mpr fun x hx => ?_
    exact List.any_eq_true.mpr ⟨x, hx, h x hx⟩
  simp [membersAgree, hall]

end Collections

theorem settled_of_isUnnumbered
    {v : Value} (h : v.isUnnumbered = true) (around : List Value) :
    Place.settled ⟨v, around⟩ = ⟨v, around⟩ := by
  cases v with
  | again form number between => cases h
  | _ => rfl

/-- A well-made value without numbers agrees with itself in any two places. -/
theorem agreeWithin_self
    {v : Value} (hw : v.WellMade) (hu : v.isUnnumbered = true) {levels : Nat}
    (hdepth : v.depth < levels) (around around' : List Value) :
    agreeWithin levels ⟨v, around⟩ ⟨v, around'⟩ = .ok true := by
  induction levels generalizing v around around' with
  | zero => omega
  | succ n ih =>
    have hinner (x : Value) (hx : x.WellMade) (hxu : x.isUnnumbered = true) (hlt : x.depth < n)
        (p q : Place) :
        (if isSame x x then .ok true else agreeWithin n (p.inside x) (q.inside x)) =
          (.ok true : Except Refusal Bool) := by
      split
      · rfl
      · exact ih hx hxu hlt _ _
    rw [agreeWithin]
    simp only [settled_of_isUnnumbered hu]
    cases hw with
    | scalar h => exact valuesAgree_self_of_isScalar h hu _
    | list h =>
      have hitems := areUnnumbered_iff.mp hu
      simp only [valuesAgree, refusal?, if_true]
      refine itemsAgree_self fun x hx => hinner x (h x hx) (hitems x hx) ?_ _ _
      have := depth_le_depthOfItems hx
      rw [depth] at hdepth
      omega
    | tuple h =>
      have hitems := areUnnumbered_iff.mp hu
      simp only [valuesAgree, refusal?]
      refine itemsAgree_self fun x hx => hinner x (h x hx) (hitems x hx) ?_ _ _
      have := depth_le_depthOfItems hx
      rw [depth] at hdepth
      omega
    | map hdistinct hkeys h =>
      have hentries := areEntriesUnnumbered_iff.mp hu
      simp only [valuesAgree, refusal?, if_true]
      refine entriesAgree_self hdistinct (fun e he => beq_self_of_isScalar (hkeys e he))
        fun e he => hinner e.2 (h e he) (hentries e he).2 ?_ _ _
      have := depth_le_depthOfEntries he
      rw [depth] at hdepth
      omega
    | set h =>
      simp only [valuesAgree, refusal?]
      exact congrArg Except.ok (membersAgree_self fun x hx => beq_self_of_isScalar (h x hx))
    | again => cases hu

theorem equal?_self
    {v : Value} (hw : v.WellMade) (hu : v.isUnnumbered = true) (hdepth : v.depth < comparisonLimit) :
    v.equal? v = .ok true :=
  agreeWithin_self hw hu hdepth [] []

end Value

end LiveConfig
