import LiveConfig.File.Source
import Mathlib.Data.List.Basic

/-!
# Numbering anew

The numbers of a value tell its not-a-numbers, and the collections in it that contain themselves,
from those of other values.  Nothing that is read from a single value depends on them: not its
text, not whether it counts as set, and not the directories that it names.

**Results.**
* `Value.display_numberFrom`, `Value.inFull_numberFrom`, `Value.isTruthy_numberFrom`: the text
  and the truth of a value stay.
* `FileSource.locationsOf_numberFrom`: the directories that it names stay.
* `Value.numberFrom_of_isUnnumbered`: a value without numbers stays as it is.
-/

namespace LiveConfig

namespace Double

/-! ## Not-a-numbers -/

theorem magnitude_nan (n : Nat) : (nan n).magnitude = infinityBits + twoTo 51 + n % twoTo 51 := by
  have h51 : twoTo 51 = 2251799813685248 := rfl
  have h63 : twoTo 63 = 9223372036854775808 := rfl
  have hinf : infinityBits = 9218868437227405312 := rfl
  have hlt : n % twoTo 51 < twoTo 51 := Nat.mod_lt _ (by rw [h51]; omega)
  unfold magnitude nan ofMagnitude
  rw [UInt64.toNat_ofNat', h63, hinf] at *
  simp only [Bool.false_eq_true, if_false]
  omega

theorem isNan_nan (n : Nat) : (nan n).isNan = true := by
  have h51 : twoTo 51 = 2251799813685248 := rfl
  have h52 : twoTo 52 = 4503599627370496 := rfl
  have hinf : infinityBits = 9218868437227405312 := rfl
  have hlt : n % twoTo 51 < twoTo 51 := Nat.mod_lt _ (by rw [h51]; omega)
  have hexponent : (nan n).exponentField = 2047 := by
    rw [exponentField, magnitude_nan, h52, hinf]
    omega
  have hfraction : (nan n).fractionField ≠ 0 := by
    rw [fractionField, magnitude_nan, h52, hinf]
    omega
  simp [isNan, hexponent, hfraction]

theorem magnitude_ne_zero_of_isNan {x : Double} (h : x.isNan = true) : x.magnitude ≠ 0 := by
  intro hzero
  have hexponent : x.exponentField = 2047 := by
    simpa using ((Bool.and_eq_true _ _).mp h).1
  rw [exponentField, hzero] at hexponent
  simp at hexponent

variable (first : Nat) {x : Double}

theorem isNan_numberFrom (x : Double) : (x.numberFrom first).isNan = x.isNan := by
  unfold numberFrom
  split
  · rename_i h
    rw [isNan_nan, ((Bool.and_eq_true _ _).mp h).1]
  · rfl

theorem numberFrom_of_isNan_eq_false (h : x.isNan = false) : x.numberFrom first = x := by
  unfold numberFrom
  rw [h]
  rfl

theorem text_numberFrom (x : Double) : (x.numberFrom first).text = x.text := by
  cases h : x.isNan with
  | false => rw [numberFrom_of_isNan_eq_false first h]
  | true =>
    have h' : (x.numberFrom first).isNan = true := by rw [isNan_numberFrom, h]
    simp only [text, Layout.text, h, h', if_true]

theorem magnitude_numberFrom_ne_zero_iff (x : Double) :
    (x.numberFrom first).magnitude ≠ 0 ↔ x.magnitude ≠ 0 := by
  cases h : x.isNan with
  | false => rw [numberFrom_of_isNan_eq_false first h]
  | true =>
    have h' : (x.numberFrom first).isNan = true := by rw [isNan_numberFrom, h]
    exact iff_of_true (magnitude_ne_zero_of_isNan h') (magnitude_ne_zero_of_isNan h)

end Double

namespace Value

variable (first : Nat)

theorem numberAllFrom_eq_map (xs : List Value) :
    numberAllFrom first xs = xs.map (numberFrom first) := by
  induction xs with
  | nil => rfl
  | cons x xs ih => rw [numberAllFrom, ih, List.map_cons]

theorem numberEntriesFrom_eq_map (es : List (Value × Value)) :
    numberEntriesFrom first es = es.map fun e => (e.1.numberFrom first, e.2.numberFrom first) := by
  induction es with
  | nil => rfl
  | cons e es ih => rw [numberEntriesFrom, ih, List.map_cons]

/-! ## What is read from a value -/

theorem isTruthy_numberFrom (v : Value) : (v.numberFrom first).isTruthy = v.isTruthy := by
  cases v with
  | float x =>
    have hiff := x.magnitude_numberFrom_ne_zero_iff first
    rw [Bool.eq_iff_iff]
    simpa [numberFrom, isTruthy] using hiff
  | list items => simp [numberFrom, isTruthy, numberAllFrom_eq_map]
  | tuple items => simp [numberFrom, isTruthy, numberAllFrom_eq_map]
  | set members => simp [numberFrom, isTruthy, numberAllFrom_eq_map]
  | map entries => simp [numberFrom, isTruthy, numberEntriesFrom_eq_map]
  | _ => rfl

mutual

theorem shown_numberFrom : ∀ v : Value, (v.numberFrom first).shown = v.shown
  | .float x => x.text_numberFrom first
  | .list items => by rw [numberFrom, shown, shown, shownAll_numberAllFrom items]
  | .tuple items => by rw [numberFrom, shown, shown, shownAll_numberAllFrom items]
  | .map entries => by rw [numberFrom, shown, shown, shownEntries_numberEntriesFrom entries]
  | .set members => by
    rw [numberFrom, shown, shown, shownAll_numberAllFrom members]
    simp [numberAllFrom_eq_map]
  | .again form number between => by cases form <;> rfl
  | .null | .bool _ | .int _ | .str _ | .bytes _ | .date _ | .moment _ | .removed
  | .flawed _ _ => rfl

theorem shownAll_numberAllFrom :
    ∀ xs : List Value, shownAll (numberAllFrom first xs) = shownAll xs
  | [] => rfl
  | x :: xs => by
    rw [numberAllFrom, shownAll, shownAll, shown_numberFrom x, shownAll_numberAllFrom xs]

theorem shownEntries_numberEntriesFrom :
    ∀ es : List (Value × Value), shownEntries (numberEntriesFrom first es) = shownEntries es
  | [] => rfl
  | (k, x) :: es => by
    rw [numberEntriesFrom, shownEntries, shownEntries, shown_numberFrom k, shown_numberFrom x,
      shownEntries_numberEntriesFrom es]

end

theorem display_numberFrom (v : Value) : (v.numberFrom first).display = v.display := by
  have hshown := shown_numberFrom first v
  cases v with
  | str s => rfl
  | date d => rfl
  | moment m => rfl
  | _ => exact congrArg Text.ofString hshown

mutual

theorem isWritable_numberFrom : ∀ v : Value, (v.numberFrom first).isWritable = v.isWritable
  | .list items => areWritable_numberAllFrom items
  | .tuple items => areWritable_numberAllFrom items
  | .set members => areWritable_numberAllFrom members
  | .map entries => areEntriesWritable_numberEntriesFrom entries
  | .null | .bool _ | .int _ | .float _ | .str _ | .bytes _ | .date _ | .moment _ | .removed
  | .flawed _ _ | .again _ _ _ => rfl

theorem areWritable_numberAllFrom :
    ∀ xs : List Value, areWritable (numberAllFrom first xs) = areWritable xs
  | [] => rfl
  | x :: xs => by
    rw [numberAllFrom, areWritable, areWritable, isWritable_numberFrom x,
      areWritable_numberAllFrom xs]

theorem areEntriesWritable_numberEntriesFrom :
    ∀ es : List (Value × Value),
      areEntriesWritable (numberEntriesFrom first es) = areEntriesWritable es
  | [] => rfl
  | (k, x) :: es => by
    rw [numberEntriesFrom, areEntriesWritable, areEntriesWritable, isWritable_numberFrom k,
      isWritable_numberFrom x, areEntriesWritable_numberEntriesFrom es]

end

mutual

theorem unwritable?_numberFrom (levels : Nat) :
    ∀ v : Value, (v.numberFrom first).unwritable? levels = v.unwritable? levels
  | .list items | .tuple items => by
    rw [numberFrom]
    cases levels with
    | zero => rfl
    | succ n => exact unwritableAmong?_numberAllFrom n items
  | .map entries => by
    rw [numberFrom]
    cases levels with
    | zero => rfl
    | succ n => exact unwritableIn?_numberEntriesFrom n entries
  | .set members => by
    have hsame := isWritable_numberFrom first (.set members)
    rw [numberFrom] at hsame ⊢
    simp only [unwritable?, hsame]
  | .null | .bool _ | .int _ | .float _ | .str _ | .bytes _ | .date _ | .moment _ | .removed
  | .flawed _ _ | .again _ _ _ => rfl

theorem unwritableAmong?_numberAllFrom (levels : Nat) :
    ∀ xs : List Value,
      unwritableAmong? levels (numberAllFrom first xs) = unwritableAmong? levels xs
  | [] => rfl
  | x :: xs => by
    rw [numberAllFrom, unwritableAmong?, unwritableAmong?, unwritable?_numberFrom levels x,
      unwritableAmong?_numberAllFrom levels xs]

theorem unwritableIn?_numberEntriesFrom (levels : Nat) :
    ∀ es : List (Value × Value),
      unwritableIn? levels (numberEntriesFrom first es) = unwritableIn? levels es
  | [] => rfl
  | (k, x) :: es => by
    rw [numberEntriesFrom, unwritableIn?, unwritableIn?, isWritable_numberFrom first k,
      unwritable?_numberFrom levels x, unwritableIn?_numberEntriesFrom levels es]

end

theorem inFull_numberFrom (v : Value) : (v.numberFrom first).inFull = v.inFull := by
  rw [inFull, inFull, unwritable?_numberFrom, display_numberFrom]

/-! ## Values without numbers -/

mutual

/-- Whether a value contains neither a not-a-number nor itself. -/
def isUnnumbered : Value → Bool
  | .float x => !x.isNan
  | .list items | .tuple items | .set items => areUnnumbered items
  | .map entries => areEntriesUnnumbered entries
  | .again _ _ _ => false
  | _ => true

def areUnnumbered : List Value → Bool
  | [] => true
  | x :: xs => isUnnumbered x && areUnnumbered xs

def areEntriesUnnumbered : List (Value × Value) → Bool
  | [] => true
  | (k, x) :: es => isUnnumbered k && isUnnumbered x && areEntriesUnnumbered es

end

theorem areUnnumbered_iff {xs : List Value} :
    areUnnumbered xs = true ↔ ∀ x ∈ xs, x.isUnnumbered = true := by
  induction xs with
  | nil => simp [areUnnumbered]
  | cons x xs ih => simp [areUnnumbered, ih]

theorem areEntriesUnnumbered_iff {es : List (Value × Value)} :
    areEntriesUnnumbered es = true ↔
      ∀ e ∈ es, e.1.isUnnumbered = true ∧ e.2.isUnnumbered = true := by
  induction es with
  | nil => simp [areEntriesUnnumbered]
  | cons e es ih => simp [areEntriesUnnumbered, ih]

mutual

theorem isUnnumbered_numberFrom :
    ∀ v : Value, (v.numberFrom first).isUnnumbered = v.isUnnumbered
  | .float x => congrArg (!·) (x.isNan_numberFrom first)
  | .list items => areUnnumbered_numberAllFrom items
  | .tuple items => areUnnumbered_numberAllFrom items
  | .set members => areUnnumbered_numberAllFrom members
  | .map entries => areEntriesUnnumbered_numberEntriesFrom entries
  | .null | .bool _ | .int _ | .str _ | .bytes _ | .date _ | .moment _ | .removed
  | .flawed _ _ | .again _ _ _ => rfl

theorem areUnnumbered_numberAllFrom :
    ∀ xs : List Value, areUnnumbered (numberAllFrom first xs) = areUnnumbered xs
  | [] => rfl
  | x :: xs => by
    rw [numberAllFrom, areUnnumbered, areUnnumbered, isUnnumbered_numberFrom x,
      areUnnumbered_numberAllFrom xs]

theorem areEntriesUnnumbered_numberEntriesFrom :
    ∀ es : List (Value × Value),
      areEntriesUnnumbered (numberEntriesFrom first es) = areEntriesUnnumbered es
  | [] => rfl
  | (k, x) :: es => by
    rw [numberEntriesFrom, areEntriesUnnumbered, areEntriesUnnumbered, isUnnumbered_numberFrom k,
      isUnnumbered_numberFrom x, areEntriesUnnumbered_numberEntriesFrom es]

end

mutual

/-- There is nothing to number anew. -/
theorem numberFrom_of_isUnnumbered :
    ∀ {v : Value}, v.isUnnumbered = true → v.numberFrom first = v
  | .float x, h => by
    have hnan : x.isNan = false := by simpa [isUnnumbered] using h
    rw [numberFrom, x.numberFrom_of_isNan_eq_false first hnan]
  | .list items, h => congrArg Value.list (numberAllFrom_of_areUnnumbered h)
  | .tuple items, h => congrArg Value.tuple (numberAllFrom_of_areUnnumbered h)
  | .set members, h => congrArg Value.set (numberAllFrom_of_areUnnumbered h)
  | .map entries, h => congrArg Value.map (numberEntriesFrom_of_areEntriesUnnumbered h)
  | .null, _ | .bool _, _ | .int _, _ | .str _, _ | .bytes _, _ | .date _, _ | .moment _, _
  | .removed, _ | .flawed _ _, _ => rfl

theorem numberAllFrom_of_areUnnumbered :
    ∀ {xs : List Value}, areUnnumbered xs = true → numberAllFrom first xs = xs
  | [], _ => rfl
  | x :: xs, h => by
    obtain ⟨hx, hxs⟩ := (Bool.and_eq_true _ _).mp h
    rw [numberAllFrom, numberFrom_of_isUnnumbered hx, numberAllFrom_of_areUnnumbered hxs]

theorem numberEntriesFrom_of_areEntriesUnnumbered :
    ∀ {es : List (Value × Value)},
      areEntriesUnnumbered es = true → numberEntriesFrom first es = es
  | [], _ => rfl
  | (k, x) :: es, h => by
    obtain ⟨hkx, hes⟩ := (Bool.and_eq_true _ _).mp h
    obtain ⟨hk, hx⟩ := (Bool.and_eq_true _ _).mp hkx
    rw [numberEntriesFrom, numberFrom_of_isUnnumbered hk, numberFrom_of_isUnnumbered hx,
      numberEntriesFrom_of_areEntriesUnnumbered hes]

end

end Value

/-! ## The directories that a value names -/

namespace FileSource

variable (first : Nat)

theorem locationOf_numberFrom (v : Value) : locationOf (v.numberFrom first) = locationOf v := by
  cases v with
  | again form number between => cases form <;> rfl
  | _ => rfl

/-- The members of a numbered value are those of the value, numbered. -/
theorem locationMembers_numberFrom (v : Value) :
    locationMembers (v.numberFrom first) =
      (locationMembers v).map fun members => members.map (Value.numberFrom first) := by
  cases v with
  | str s =>
    refine congrArg Except.ok ?_
    beta_reduce
    rw [List.map_map]
    rfl
  | list items => exact congrArg Except.ok (Value.numberAllFrom_eq_map first items)
  | tuple items => exact congrArg Except.ok (Value.numberAllFrom_eq_map first items)
  | set members => exact congrArg Except.ok (Value.numberAllFrom_eq_map first members)
  | map entries =>
    refine congrArg Except.ok ?_
    beta_reduce
    rw [Value.numberEntriesFrom_eq_map, List.map_map, List.map_map]
    rfl
  | bytes data =>
    refine congrArg Except.ok ?_
    beta_reduce
    rw [List.map_map]
    rfl
  | again form number between => cases form <;> rfl
  | _ => rfl

theorem locationsOf_numberFrom (v : Value) : locationsOf (v.numberFrom first) = locationsOf v := by
  unfold locationsOf
  rw [locationMembers_numberFrom]
  cases locationMembers v with
  | error failure => rfl
  | ok members =>
    have hfilter : (members.map (Value.numberFrom first)).filter Value.isTruthy =
        (members.filter Value.isTruthy).map (Value.numberFrom first) := by
      rw [List.filter_map]
      exact congrArg _ (List.filter_congr fun v _ => Value.isTruthy_numberFrom first v)
    show ((members.map (Value.numberFrom first)).filter Value.isTruthy).mapM locationOf =
      (members.filter Value.isTruthy).mapM locationOf
    rw [hfilter, List.mapM_map]
    exact congrArg (fun f => (members.filter Value.isTruthy).mapM f)
      (funext (locationOf_numberFrom first))

end FileSource

end LiveConfig
