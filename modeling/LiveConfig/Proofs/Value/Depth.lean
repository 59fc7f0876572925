import LiveConfig.Proofs.Value.Leaves

/-!
# Values that lie too deep

Values are compared, written and flattened by calls inside one another, at least one for each
collection around a part.  The stack has room for so many calls only, so that a finite value can
be too deep as well.  Here it is said which values are not written for that, and where flattening
stops.

**Results.**
* `Value.unwritable?_eq_none_iff`: which values are written in full.
* `Value.flattenOnStack_eq_error_iff`: flattening on a stack fails with its first step that fails.
* `Value.flatten_of_flattenOnStack`: if it does not fail, the stack makes no difference.
-/

namespace LiveConfig.Value

/-! ## Depth -/

mutual

/-- How many collections of a value lie inside one another. -/
def depth : Value → Nat
  | .list items | .tuple items => depthOfItems items + 1
  | .map entries => depthOfEntries entries + 1
  | _ => 0

/-- The greatest depth of some items. -/
def depthOfItems : List Value → Nat
  | [] => 0
  | x :: xs => max (depth x) (depthOfItems xs)

/-- The greatest depth of the values of some entries. -/
def depthOfEntries : List (Value × Value) → Nat
  | [] => 0
  | (_, x) :: es => max (depth x) (depthOfEntries es)

end

theorem depth_le_depthOfItems {x : Value} :
    ∀ {xs : List Value}, x ∈ xs → x.depth ≤ depthOfItems xs
  | y :: ys, h => by
    rw [depthOfItems]
    rcases List.mem_cons.mp h with rfl | hmem
    · exact Nat.le_max_left _ _
    · exact Nat.le_trans (depth_le_depthOfItems hmem) (Nat.le_max_right _ _)

theorem depth_le_depthOfEntries {e : Value × Value} :
    ∀ {es : List (Value × Value)}, e ∈ es → e.2.depth ≤ depthOfEntries es
  | (k, x) :: es, h => by
    rw [depthOfEntries]
    rcases List.mem_cons.mp h with rfl | hmem
    · exact Nat.le_max_left _ _
    · exact Nat.le_trans (depth_le_depthOfEntries hmem) (Nat.le_max_right _ _)

/-! ## Values in full -/

mutual

/-- A value is written if no number in it is too long and no part of it lies too deep. -/
theorem unwritable?_eq_none_iff (levels : Nat) :
    ∀ v : Value, v.unwritable? levels = none ↔ v.isWritable = true ∧ v.depth ≤ levels
  | .list items | .tuple items => by
    cases levels with
    | zero => simp [unwritable?, depth]
    | succ n => simpa [unwritable?, isWritable, depth] using unwritableAmong?_eq_none_iff n items
  | .map entries => by
    cases levels with
    | zero => simp [unwritable?, depth]
    | succ n => simpa [unwritable?, isWritable, depth] using unwritableIn?_eq_none_iff n entries
  | .null | .bool _ | .int _ | .float _ | .str _ | .set _ | .bytes _ | .date _ | .moment _
  | .removed | .flawed _ _ | .again _ _ _ => by simp [unwritable?, depth]

theorem unwritableAmong?_eq_none_iff (levels : Nat) :
    ∀ xs : List Value,
      unwritableAmong? levels xs = none ↔ areWritable xs = true ∧ depthOfItems xs ≤ levels
  | [] => by simp [unwritableAmong?, areWritable, depthOfItems]
  | x :: xs => by
    rw [unwritableAmong?, areWritable, depthOfItems, Option.or_eq_none_iff, Bool.and_eq_true,
      Nat.max_le, unwritable?_eq_none_iff levels x, unwritableAmong?_eq_none_iff levels xs]
    exact and_and_and_comm

theorem unwritableIn?_eq_none_iff (levels : Nat) :
    ∀ es : List (Value × Value),
      unwritableIn? levels es = none ↔
        areEntriesWritable es = true ∧ depthOfEntries es ≤ levels
  | [] => by simp [unwritableIn?, areEntriesWritable, depthOfEntries]
  | (k, x) :: es => by
    rw [unwritableIn?, areEntriesWritable, depthOfEntries]
    cases k.isWritable with
    | false => simp
    | true =>
      rw [if_pos rfl, Option.or_eq_none_iff, Bool.true_and, Bool.and_eq_true, Nat.max_le,
        unwritable?_eq_none_iff levels x, unwritableIn?_eq_none_iff levels es]
      exact and_and_and_comm

end

mutual

/-- What keeps a value from being written is a number that is too long, or its depth. -/
theorem eq_of_unwritable? {failure : Failure} {levels : Nat} :
    ∀ v : Value, v.unwritable? levels = some failure → failure = .tooDeep ∨ failure = .longNumber
  | .list items | .tuple items => by
    cases levels with
    | zero => exact fun h => .inl (Option.some.inj h).symm
    | succ n => exact eq_of_unwritableAmong? items
  | .map entries => by
    cases levels with
    | zero => exact fun h => .inl (Option.some.inj h).symm
    | succ n => exact eq_of_unwritableIn? entries
  | .null | .bool _ | .int _ | .float _ | .str _ | .set _ | .bytes _ | .date _ | .moment _
  | .removed | .flawed _ _ | .again _ _ _ => by
    intro h
    simp only [unwritable?] at h
    split at h
    · cases h
    · exact .inr (Option.some.inj h).symm

theorem eq_of_unwritableAmong? {failure : Failure} {levels : Nat} :
    ∀ xs : List Value,
      unwritableAmong? levels xs = some failure → failure = .tooDeep ∨ failure = .longNumber
  | x :: xs, h =>
    (Option.or_eq_some_iff.mp h).elim (eq_of_unwritable? x) fun h => eq_of_unwritableAmong? xs h.2

theorem eq_of_unwritableIn? {failure : Failure} {levels : Nat} :
    ∀ es : List (Value × Value),
      unwritableIn? levels es = some failure → failure = .tooDeep ∨ failure = .longNumber
  | (k, x) :: es, h => by
    rw [unwritableIn?] at h
    split at h
    · exact (Option.or_eq_some_iff.mp h).elim (eq_of_unwritable? x)
        fun h => eq_of_unwritableIn? es h.2
    · exact .inr (Option.some.inj h).symm

end

theorem exists_inFull_iff {v : Value} :
    (∃ text, v.inFull = .ok text) ↔ v.isWritable = true ∧ v.depth ≤ writingLimit := by
  rw [← unwritable?_eq_none_iff, inFull]
  cases v.unwritable? writingLimit with
  | none => exact iff_of_true ⟨_, rfl⟩ rfl
  | some failure => exact iff_of_false nofun nofun

/-! ## Flattening on a stack -/

mutual

/-- Every key that flattening meets is written by one of its steps. -/
theorem key_mem_flatteningSteps {key : Value} (calls : Nat) :
    ∀ {v : Value}, key ∈ keysWithin v → .key key ∈ flatteningSteps calls v
  | .map (_ :: _), h => List.mem_cons_of_mem _ (key_mem_stepsOfEntries (calls + 2) h)
  | .list (_ :: _), h => List.mem_cons_of_mem _ (key_mem_stepsOfItems (calls + 1) h)

theorem key_mem_stepsOfEntries {key : Value} (calls : Nat) :
    ∀ {es : List (Value × Value)}, key ∈ keysWithinEntries es → .key key ∈ stepsOfEntries calls es
  | (k, x) :: es, h => by
    rcases List.mem_cons.mp h with rfl | hinside
    · exact List.mem_cons_self
    · refine List.mem_cons_of_mem _ (List.mem_append.mpr ?_)
      exact (List.mem_append.mp hinside).imp (key_mem_flatteningSteps calls)
        (key_mem_stepsOfEntries calls)

theorem key_mem_stepsOfItems {key : Value} (calls : Nat) :
    ∀ {xs : List Value}, key ∈ keysWithinItems xs → .key key ∈ stepsOfItems calls xs
  | _ :: _, h =>
    List.mem_append.mpr ((List.mem_append.mp h).imp (key_mem_flatteningSteps calls)
      (key_mem_stepsOfItems calls))

end

/-- Flattening some entries comes to a step, and has not failed before. -/
def FlatteningComesTo (step : FlatteningStep) (entries : List (Value × Value)) : Prop :=
  ∃ before after, stepsOfEntries 2 entries = before ++ step :: after ∧
    ∀ s ∈ before, s.failure? = none

variable {entries : List (Value × Value)}

/-- Without a step that fails, nothing is left that flattening can fail with. -/
theorem exists_flatten_of_steps
    (h : (stepsOfEntries 2 entries).findSome? FlatteningStep.failure? = none) (base : Text) :
    ∃ t, flatten entries base = .ok t := by
  have hkeys : (keysWithinEntries entries).all isWritable = true := by
    refine List.all_eq_true.mpr fun key hkey => ?_
    have hstep := List.findSome?_eq_none_iff.mp h _ (key_mem_stepsOfEntries 2 hkey)
    unfold FlatteningStep.failure? at hstep
    by_contra hlong
    simp [hlong] at hstep
  exact ⟨_, (flatten_eq_onePass entries base).trans (if_pos hkeys)⟩

theorem flattenOnStack_eq_error_iff {failure : Failure} :
    flattenOnStack entries = .error failure ↔
      ∃ step, FlatteningComesTo step entries ∧ step.failure? = some failure := by
  have hfirst : (stepsOfEntries 2 entries).findSome? FlatteningStep.failure? = some failure ↔
      ∃ step, FlatteningComesTo step entries ∧ step.failure? = some failure := by
    rw [List.findSome?_eq_some_iff]
    constructor
    · rintro ⟨before, step, after, hsplit, hstep, hbefore⟩
      exact ⟨step, ⟨before, after, hsplit, hbefore⟩, hstep⟩
    · rintro ⟨step, ⟨before, after, hsplit, hbefore⟩, hstep⟩
      exact ⟨before, step, after, hsplit, hstep, hbefore⟩
  rw [← hfirst, flattenOnStack]
  cases hfind : (stepsOfEntries 2 entries).findSome? FlatteningStep.failure? with
  | some other => simp
  | none =>
    obtain ⟨t, ht⟩ := exists_flatten_of_steps hfind ""
    simp [ht]

theorem flatten_of_flattenOnStack {t : Entries} (h : flattenOnStack entries = .ok t) :
    flatten entries "" = .ok t := by
  unfold flattenOnStack at h
  split at h
  · cases h
  · exact h

end LiveConfig.Value
