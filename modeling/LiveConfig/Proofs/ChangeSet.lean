import LiveConfig.ChangeSet
import LiveConfig.Proofs.Failing
import LiveConfig.Proofs.Table

/-!
# What a change set contains

Null agrees with null only and is compared with nothing.  All other values are compared, and the first
key in the order of the earlier snapshot under which this fails makes the whole fail.

Otherwise there is a change set.  Its two parts come from passes over different snapshots, but no key
is written twice, so its entries are those of the first pass followed by those of the second.  What it
says of a key depends on the two look-ups of this key alone (`changeOf?`).

**Results.**
* `entries_changes`, `get?_of_entries_changes`: the entries of a change set, and what it says of a key.
* `changes_eq_error_iff`, `changedEntries_eq_error_iff`: where taking a change set fails.
* `exists_changes`: change sets exist and have exactly the keys that differ.
* `changes_self_iff`: nothing changes between a snapshot and itself exactly if its values are equal to
  themselves.
* `differ_or_differ`: what differs between the first and the last of three snapshots.
-/

namespace LiveConfig

namespace Value

/-- The comparison of two values does not fail. -/
def Comparable (u v : Value) : Prop :=
  ∃ b, u.equal? v = .ok b

/-- Nothing else has the atom form of null. -/
theorem eq_null_of_atoms?
    {v : Value} (h : v.atoms? = some [.null]) : v = .null := by
  cases v with
  | null => rfl
  | float x =>
    rw [atoms?] at h
    split at h
    · cases h
    · split at h <;> cases h
  | tuple items =>
    rw [atoms?] at h
    obtain ⟨x, -, hx⟩ := Option.map_eq_some_iff.mp h
    cases hx
  | moment m =>
    rw [atoms?] at h
    split at h <;> cases h
  | _ => cases h

theorem beq_null_iff {v : Value} : (v == .null) = true ↔ v = .null := by
  constructor
  · intro h
    obtain ⟨x, hv, hnull⟩ := beq_iff_atoms.mp h
    cases hnull
    exact eq_null_of_atoms? hv
  · rintro rfl
    rfl

/-- A value that stands by itself is in its own place. -/
theorem settled_alone (v : Value) : Place.settled ⟨v, []⟩ = ⟨v, []⟩ := by
  cases v <;> simp [Place.settled]

/-- The comparison of two values goes at least one level deep. -/
theorem exists_equal?_eq (a b : Value) :
    ∃ agree, a.equal? b = valuesAgree agree a b := by
  obtain ⟨n, hn⟩ : ∃ n, comparisonLimit = n + 1 := ⟨984, rfl⟩
  rw [equal?, hn, agreeWithin]
  simp only [settled_alone]
  exact ⟨_, rfl⟩

/-- Null is equal to itself only. -/
theorem equal?_null
    {v : Value} {b : Bool} (h : v.equal? .null = .ok b) : b = true ↔ v = .null := by
  obtain ⟨agree, hagree⟩ := exists_equal?_eq v .null
  rw [hagree] at h
  cases v with
  | float x =>
    have hne : (Value.float x == .null) = false :=
      Bool.eq_false_iff.mpr fun hsame => nomatch beq_null_iff.mp hsame
    obtain rfl : false = b := by simpa [valuesAgree, refusal?, equalLeaves, hne] using h
    simp
  | flawed reason number => cases h
  | _ =>
    obtain rfl := Except.ok.inj h
    exact beq_null_iff

/-- Nothing else is equal to null. -/
theorem null_equal?
    {v : Value} {b : Bool} (h : Value.null.equal? v = .ok b) : b = true ↔ v = .null := by
  obtain ⟨agree, hagree⟩ := exists_equal?_eq .null v
  rw [hagree] at h
  rw [← beq_null_iff, BEq.comm]
  cases v with
  | flawed reason number => cases h
  | _ =>
    obtain rfl := Except.ok.inj h
    exact Iff.rfl

/-- The failure of a comparison that is refused. -/
def Refusal.failure : Refusal → Failure
  | .flawed reason => .incomparable reason
  | .endless => .endless

/-- Whether two values agree: null agrees with null only, and all else if it is found equal. -/
def agrees : Value → Value → Bool
  | .null, .null => true
  | .null, _ => false
  | _, .null => false
  | u, v =>
    match u.equal? v with
    | .ok equal => equal
    | .error _ => false

/-- Comparing two values fails; null is never compared. -/
def ComparisonFails (u v : Value) (failure : Failure) : Prop :=
  u ≠ .null ∧ v ≠ .null ∧ ∃ refusal, u.equal? v = .error refusal ∧ refusal.failure = failure

theorem null_agrees_iff {v : Value} : Value.null.agrees v = true ↔ v = .null := by
  cases v <;> simp [agrees]

theorem agrees_null_iff {v : Value} : v.agrees .null = true ↔ v = .null := by
  cases v <;> simp [agrees]

theorem agrees_of_ne_null {u v : Value} (hu : u ≠ .null) (hv : v ≠ .null) :
    u.agrees v = true ↔ u.equal? v = .ok true := by
  unfold agrees
  split
  · contradiction
  · contradiction
  · contradiction
  · cases u.equal? v <;> simp

theorem equal?_null_null : Value.null.equal? .null = .ok true := by
  obtain ⟨agree, hagree⟩ := exists_equal?_eq .null .null
  exact hagree

/-- Where values can be compared, the rule for null adds nothing to the comparison. -/
theorem agrees_of_equal? {u v : Value} {b : Bool} (h : u.equal? v = .ok b) : u.agrees v = b := by
  rw [Bool.eq_iff_iff]
  by_cases hu : u = .null
  · subst hu
    rw [null_agrees_iff, null_equal? h]
  · by_cases hv : v = .null
    · subst hv
      rw [agrees_null_iff, equal?_null h]
    · rw [agrees_of_ne_null hu hv, h, Except.ok.injEq]

theorem Comparable.not_comparisonFails {u v : Value} (h : u.Comparable v) (failure : Failure) :
    ¬u.ComparisonFails v failure := by
  obtain ⟨b, hb⟩ := h
  rintro ⟨-, -, refusal, hrefused, -⟩
  cases hb.symm.trans hrefused

end Value

open Value

/-- Two values that are not null are compared. -/
theorem differ?_of_ne_null {u v : Value} (hu : u ≠ .null) (hv : v ≠ .null) :
    differ? u v = ((u.equal? v).map not).mapError Refusal.failure := by
  unfold differ?
  split
  · contradiction
  · contradiction
  · contradiction
  · rcases u.equal? v with (reason | _) | b <;> rfl

/-- Where the comparison does not fail, values differ if they do not agree. -/
theorem differ?_eq_not_agrees {u v : Value} (h : ∀ failure, ¬u.ComparisonFails v failure) :
    differ? u v = .ok !u.agrees v := by
  by_cases hu : u = .null
  · subst hu
    cases v <;> rfl
  · by_cases hv : v = .null
    · subst hv
      cases u <;> first | contradiction | rfl
    · rw [differ?_of_ne_null hu hv]
      cases hequal : u.equal? v with
      | error refusal => exact absurd ⟨hu, hv, refusal, hequal, rfl⟩ (h _)
      | ok b =>
        rw [agrees_of_equal? hequal]
        rfl

theorem differ?_eq_error_iff {u v : Value} {failure : Failure} :
    differ? u v = .error failure ↔ u.ComparisonFails v failure := by
  constructor
  · intro h
    have hu : u ≠ .null := by
      rintro rfl
      cases v <;> cases h
    have hv : v ≠ .null := by
      rintro rfl
      cases u <;> cases h
    rw [differ?_of_ne_null hu hv] at h
    cases hequal : u.equal? v with
    | ok b =>
      rw [hequal] at h
      cases h
    | error refusal =>
      rw [hequal] at h
      exact ⟨hu, hv, refusal, hequal, Except.error.inj h⟩
  · rintro ⟨hu, hv, refusal, hequal, rfl⟩
    rw [differ?_of_ne_null hu hv, hequal]
    rfl

/-! ## The two passes -/

/-- What a change set says of a key, by what the two snapshots have for it. -/
def changeOf? : Option Value → Option Value → Option Value
  | none, new => new
  | some _, none => some .removed
  | some old, some new => if old.agrees new then none else some new

/-- The removed and the modified keys of some entries of the earlier snapshot, in their order. -/
def modifiedEntries (after : Entries) (es : List (Value × Value)) : List (Value × Value) :=
  es.filterMap fun e => (changeOf? (some e.2) (after.get? e.1)).map (Prod.mk e.1)

/-- No entry is compared with a value that makes the comparison fail. -/
def AllCompare (after : Entries) (es : List (Value × Value)) : Prop :=
  ∀ e ∈ es, ∀ new, after.get? e.1 = some new → ∀ failure, ¬e.2.ComparisonFails new failure

variable {before after changed : Entries} {key : Value}

theorem modifiedEntries_cons (after : Entries) (k old : Value) (es : List (Value × Value)) :
    modifiedEntries after ((k, old) :: es) =
      ((changeOf? (some old) (after.get? k)).map (Prod.mk k)).toList ++ modifiedEntries after es := by
  rw [modifiedEntries, List.filterMap_cons, modifiedEntries]
  cases changeOf? (some old) (after.get? k) <;> rfl

/-- What is said of entries that can be compared stands in front of what is said of the rest. -/
theorem changedEntries_append {es : List (Value × Value)} (h : AllCompare after es)
    (rest : List (Value × Value)) :
    changedEntries after (es ++ rest) =
      (changedEntries after rest).map (modifiedEntries after es ++ ·) := by
  induction es with
  | nil =>
    rw [List.nil_append]
    cases changedEntries after rest <;> rfl
  | cons e es ih =>
    obtain ⟨k, old⟩ := e
    obtain ⟨hhead, hrest⟩ := List.forall_mem_cons.mp h
    rw [List.cons_append, changedEntries, ih hrest, modifiedEntries_cons]
    cases hnew : after.get? k with
    | none => cases changedEntries after rest <;> rfl
    | some new =>
      simp only [differ?_eq_not_agrees (hhead new hnew), changeOf?]
      cases old.agrees new <;> cases changedEntries after rest <;> rfl

theorem changedEntries_eq {es : List (Value × Value)} (h : AllCompare after es) :
    changedEntries after es = .ok (modifiedEntries after es) := by
  have happend := changedEntries_append h []
  rw [List.append_nil] at happend
  rw [happend, changedEntries, Except.map, List.append_nil]

/-- Either no comparison fails, or there is a first one that does. -/
theorem allCompare_or_exists_first (after : Entries) (es : List (Value × Value)) :
    AllCompare after es ∨
      ∃ earlier k old later new failure, es = earlier ++ (k, old) :: later ∧
        AllCompare after earlier ∧ after.get? k = some new ∧ old.ComparisonFails new failure := by
  induction es with
  | nil => exact Or.inl (List.forall_mem_nil _)
  | cons e es ih =>
    obtain ⟨k, old⟩ := e
    by_cases hhead : ∀ new, after.get? k = some new → ∀ failure, ¬old.ComparisonFails new failure
    · rcases ih with hall | ⟨earlier, k', old', later, new, failure, rfl, hearlier, hfirst⟩
      · exact Or.inl (List.forall_mem_cons.mpr ⟨hhead, hall⟩)
      · exact Or.inr ⟨(k, old) :: earlier, k', old', later, new, failure, rfl,
          List.forall_mem_cons.mpr ⟨hhead, hearlier⟩, hfirst⟩
    · push Not at hhead
      obtain ⟨new, hnew, failure, hfails⟩ := hhead
      exact Or.inr ⟨[], k, old, es, new, failure, rfl, List.forall_mem_nil _, hnew, hfails⟩

/-- The first comparison that fails, in the order of the entries, is the failure of the whole. -/
theorem changedEntries_eq_error_iff {es : List (Value × Value)} {failure : Failure} :
    changedEntries after es = .error failure ↔
      ∃ earlier k old later new, es = earlier ++ (k, old) :: later ∧
        AllCompare after earlier ∧ after.get? k = some new ∧ old.ComparisonFails new failure := by
  have hfirst {earlier later : List (Value × Value)} {k old new : Value} {other : Failure}
      (hearlier : AllCompare after earlier) (hnew : after.get? k = some new)
      (hfails : old.ComparisonFails new other) :
      changedEntries after (earlier ++ (k, old) :: later) = .error other := by
    rw [changedEntries_append hearlier, changedEntries, hnew]
    simp only [differ?_eq_error_iff.mpr hfails]
    rfl
  constructor
  · intro h
    rcases allCompare_or_exists_first after es with
      hall | ⟨earlier, k, old, later, new, other, rfl, hearlier, hnew, hfails⟩
    · rw [changedEntries_eq hall] at h
      cases h
    · obtain rfl := Except.error.inj ((hfirst hearlier hnew hfails).symm.trans h)
      exact ⟨earlier, k, old, later, new, rfl, hearlier, hnew, hfails⟩
  · rintro ⟨earlier, k, old, later, new, rfl, hearlier, hnew, hfails⟩
    exact hfirst hearlier hnew hfails

/-- No key is written twice: the second pass writes what the earlier snapshot does not have. -/
theorem distinctKeys_passes (before after : Entries) :
    DistinctKeys (modifiedEntries after before.entries ++ addedEntries before after.entries) := by
  have hkey {e f : Value × Value} {x : Option Value} (h : x.map (Prod.mk e.1) = some f) :
      f.1 = e.1 := by
    obtain ⟨y, -, rfl⟩ := Option.map_eq_some_iff.mp h
    rfl
  refine List.pairwise_append.mpr ⟨?_, after.distinct.filter _, fun a ha b hb => ?_⟩
  · refine List.pairwise_filterMap.mpr (before.distinct.imp fun hab a ha b hb => ?_)
    rwa [hkey ha, hkey hb]
  · obtain ⟨e, he, hea⟩ := List.mem_filterMap.mp ha
    obtain ⟨-, hnew⟩ := List.mem_filter.mp hb
    have hnone : before.get? b.1 = none := by simpa [Table.contains] using hnew
    rw [hkey hea]
    exact forall_ne_of_firstValue? hnone e he

/-- The entries of a change set are those of the first pass and then those of the second. -/
theorem entries_changes (h : AllCompare after before.entries) :
    ∃ changed, changes before after = .ok changed ∧
      changed.entries =
        modifiedEntries after before.entries ++ addedEntries before after.entries := by
  refine ⟨_, ?_, Table.entries_insertAll (t := Table.empty) (distinctKeys_passes before after)⟩
  rw [changes, changedEntries_eq h]
  rfl

theorem changes_eq_error_iff {failure : Failure} :
    changes before after = .error failure ↔
      changedEntries after before.entries = .error failure := by
  unfold changes
  cases changedEntries after before.entries with
  | ok modified => exact iff_of_false nofun nofun
  | error other =>
    constructor
    · intro h
      exact congrArg Except.error (Except.error.inj h)
    · intro h
      exact congrArg Except.error (Except.error.inj h)

/-! ## Looking up in a change set -/

theorem get?_of_entries_changes
    (h : changed.entries =
      modifiedEntries after before.entries ++ addedEntries before after.entries) (key : Value) :
    changed.get? key = changeOf? (before.get? key) (after.get? key) := by
  have hafter {k k' : Value} (hk : (k == k') = true) : after.get? k = after.get? k' :=
    firstValue?_congr hk _
  have hbefore {k k' : Value} (hk : (k == k') = true) : before.contains k = before.contains k' :=
    congrArg Option.isSome (firstValue?_congr hk _)
  have hmodified : firstValue? key (modifiedEntries after before.entries) =
      (before.get? key).bind fun old => changeOf? (some old) (after.get? key) := by
    refine firstValue?_filterMap (f := fun k old => changeOf? (some old) (after.get? k))
      before.distinct (fun k k' old hk => ?_) key
    rw [hafter hk]
  have hadded : firstValue? key (addedEntries before after.entries) =
      if !before.contains key then after.get? key else none :=
    firstValue?_filter (p := fun k => !before.contains k) (fun k k' hk => by rw [hbefore hk]) key
      after.entries
  have hentries : changed.get? key = firstValue? key changed.entries := rfl
  rw [hentries, h, firstValue?_append, hmodified, hadded, Table.contains]
  cases before.get? key with
  | none => simp [changeOf?]
  | some old => simp

/-! ## Which keys there are -/

theorem isSome_changeOf?_iff {x y : Option Value} :
    (changeOf? x y).isSome = true ↔
      x.isSome ≠ y.isSome ∨ ∃ old new, x = some old ∧ y = some new ∧ old.agrees new = false := by
  cases x with
  | none => cases y <;> simp [changeOf?]
  | some old =>
    cases y with
    | none => simp [changeOf?]
    | some new => cases hagrees : old.agrees new <;> simp [changeOf?, hagrees]

/-- What two look-ups found is not the same: one found nothing, or the values are unequal. -/
def Differ : Option Value → Option Value → Prop
  | none, none => False
  | some u, some v => u.equal? v = .ok false
  | _, _ => True

theorem isSome_changeOf?_iff_differ {x y : Option Value}
    (h : ∀ u v, x = some u → y = some v → u.Comparable v) :
    (changeOf? x y).isSome = true ↔ Differ x y := by
  cases x with
  | none => cases y <;> simp [changeOf?, Differ]
  | some u =>
    cases y with
    | none => simp [changeOf?, Differ]
    | some v =>
      obtain ⟨b, hb⟩ := h u v rfl rfl
      cases b <;> simp [changeOf?, Differ, agrees_of_equal? hb, hb]

/--
Snapshots that can be compared under the keys that they share have a change set, which has exactly
the keys under which they differ.
-/
theorem exists_changes
    (h : ∀ key u v, before.get? key = some u → after.get? key = some v → u.Comparable v) :
    ∃ changed, changes before after = .ok changed ∧
      ∀ key, changed.contains key = true ↔ Differ (before.get? key) (after.get? key) := by
  have hcompare : AllCompare after before.entries := by
    intro e he v hv
    -- a key that is found is equal to itself
    obtain ⟨k, -, hk⟩ := Table.get?_eq_some_iff.mp hv
    have hself : (e.1 == e.1) = true := BEq.trans (BEq.symm hk) hk
    have hfound := Table.get?_eq_some_iff.mpr ⟨e.1, he, hself⟩
    exact (h e.1 e.2 v hfound hv).not_comparisonFails
  obtain ⟨changed, hchanges, hentries⟩ := entries_changes hcompare
  refine ⟨changed, hchanges, fun key => ?_⟩
  rw [Table.contains, get?_of_entries_changes hentries]
  exact isSome_changeOf?_iff_differ (h key)

/-! ## A snapshot and itself -/

theorem allCompare_of_isOk {es : List (Value × Value)}
    (h : (changedEntries after es).isOk = true) : AllCompare after es := by
  rcases allCompare_or_exists_first after es with
    hall | ⟨earlier, k, old, later, new, failure, hfirst⟩
  · exact hall
  · rw [changedEntries_eq_error_iff.mpr ⟨earlier, k, old, later, new, hfirst⟩] at h
    cases h

/-- Nothing changes to the same exactly if all values but null are equal to themselves. -/
theorem changes_self_iff {t : Entries} (hkeys : ∀ key ∈ t.keys, (key == key) = true) :
    changes t t = .ok Table.empty ↔
      ∀ e ∈ t.entries, e.2 ≠ .null → e.2.equal? e.2 = .ok true := by
  have hfound (e : Value × Value) (he : e ∈ t.entries) : t.get? e.1 = some e.2 :=
    Table.get?_eq_some_iff.mpr ⟨e.1, he, hkeys e.1 (List.mem_map_of_mem he)⟩
  constructor
  · intro h e he hnull
    obtain ⟨modified, hmodified, -⟩ := exists_ok_of_bind h
    have hcompare : AllCompare t t.entries := allCompare_of_isOk (by rw [hmodified]; rfl)
    obtain ⟨changed, hchanges, hentries⟩ := entries_changes hcompare
    obtain rfl := Except.ok.inj (hchanges.symm.trans h)
    have hnone := get?_of_entries_changes hentries e.1
    rw [Table.get?_empty, hfound e he] at hnone
    refine (agrees_of_ne_null hnull hnull).mp ?_
    simpa [changeOf?] using hnone.symm
  · intro h
    have hequal : ∀ e ∈ t.entries, e.2.equal? e.2 = .ok true := by
      intro e he
      by_cases hnull : e.2 = .null
      · rw [hnull]
        exact equal?_null_null
      · exact h e he hnull
    have hcompare : AllCompare t t.entries := by
      intro e he new hnew
      obtain rfl := Option.some.inj ((hfound e he).symm.trans hnew)
      exact Comparable.not_comparisonFails ⟨true, hequal e he⟩
    have hmodified : modifiedEntries t t.entries = [] := by
      refine List.filterMap_eq_nil_iff.mpr fun e he => ?_
      simp [hfound e he, changeOf?, agrees_of_equal? (hequal e he)]
    have hadded : addedEntries t t.entries = [] := by
      refine List.filter_eq_nil_iff.mpr fun e he => ?_
      simp [Table.contains, hfound e he]
    obtain ⟨changed, hchanges, hentries⟩ := entries_changes hcompare
    rw [hmodified, hadded] at hentries
    rw [hchanges, Table.ext_entries (t := changed) (u := Table.empty) hentries]

/-- Nothing changes between a snapshot and itself, if keys and values are equal to themselves. -/
theorem changes_self
    {t : Entries} (h : ∀ e ∈ t.entries, (e.1 == e.1) = true ∧ e.2.equal? e.2 = .ok true) :
    changes t t = .ok Table.empty := by
  refine (changes_self_iff fun key hkey => ?_).mpr fun e he _ => (h e he).2
  obtain ⟨e, he, rfl⟩ := List.mem_map.mp hkey
  exact (h e he).1

/-! ## Snapshots that cannot be compared -/

/-- A comparison fails at a value that refuses, or in values that contain themselves. -/
theorem eq_of_differ?
    {u v : Value} {failure : Failure} (h : differ? u v = .error failure) :
    (∃ reason, failure = .incomparable reason) ∨ failure = .endless := by
  obtain ⟨-, -, refusal, -, rfl⟩ := differ?_eq_error_iff.mp h
  cases refusal with
  | flawed reason => exact Or.inl ⟨reason, rfl⟩
  | endless => exact Or.inr rfl

/-- A comparison that fails is no interruption. -/
theorem isOrdinary_of_differ?
    {u v : Value} {failure : Failure} (h : differ? u v = .error failure) :
    failure.isOrdinary = true := by
  rcases eq_of_differ? h with ⟨reason, rfl⟩ | rfl
  · rfl
  · rfl

/-- Taking a change set fails only at a key that both snapshots have. -/
theorem exists_incomparable
    {failure : Failure} (h : changes before after = .error failure) :
    ∃ e ∈ before.entries, ∃ v, after.get? e.1 = some v ∧ differ? e.2 v = .error failure := by
  obtain ⟨earlier, k, old, later, new, hsplit, -, hnew, hfails⟩ :=
    changedEntries_eq_error_iff.mp (changes_eq_error_iff.mp h)
  refine ⟨(k, old), ?_, new, hnew, differ?_eq_error_iff.mpr hfails⟩
  rw [hsplit]
  exact List.mem_append_right _ List.mem_cons_self

/-! ## Three snapshots in a row -/

/-- Some values can all be compared with each other, and equality is transitive among them. -/
structure Value.ComparesWell (p : Value → Prop) : Prop where
  comparable : ∀ u v, p u → p v → u.Comparable v
  transitive : ∀ u v w, p u → p v → p w →
    u.equal? v = .ok true → v.equal? w = .ok true → u.equal? w = .ok true

theorem Value.ComparesWell.mono
    {p q : Value → Prop} (hp : Value.ComparesWell p) (h : ∀ v, q v → p v) :
    Value.ComparesWell q where
  comparable u v hu hv := hp.comparable u v (h u hu) (h v hv)
  transitive u v w hu hv hw := hp.transitive u v w (h u hu) (h v hv) (h w hw)

/--
What differs between the first and the last of three look-ups differs between two in a row.  A value
that is not equal to itself differs from itself, so the second difference is also one by identity.
-/
theorem differ_or_differ
    {p : Value → Prop} (hp : Value.ComparesWell p) {x y z : Option Value}
    (hx : ∀ u, x = some u → p u) (hy : ∀ u, y = some u → p u) (hz : ∀ u, z = some u → p u)
    (h : Differ x z) (hne : x ≠ z) : Differ x y ∨ Differ y z ∧ y ≠ z := by
  cases x with
  | none =>
    cases y with
    | none => exact Or.inr ⟨h, hne⟩
    | some v => exact Or.inl trivial
  | some u =>
    cases y with
    | none => exact Or.inl trivial
    | some v =>
      obtain ⟨b, hb⟩ := hp.comparable u v (hx u rfl) (hy v rfl)
      cases b with
      | false => exact Or.inl hb
      | true =>
        refine Or.inr ?_
        cases z with
        | none => exact ⟨trivial, nofun⟩
        | some w =>
          have huw : u.equal? w = .ok false := h
          obtain ⟨c, hc⟩ := hp.comparable v w (hy v rfl) (hz w rfl)
          have hvw : v.equal? w ≠ .ok true := by
            intro hvw
            have := hp.transitive u v w (hx u rfl) (hy v rfl) (hz w rfl) hb hvw
            rw [huw] at this
            cases this
          constructor
          · cases c with
            | false => exact hc
            | true => exact absurd hc hvw
          · rintro ⟨⟩
            rw [hb] at huw
            cases huw

end LiveConfig
