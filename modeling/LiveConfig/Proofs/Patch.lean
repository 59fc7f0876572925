import LiveConfig.Proofs.ChangeSet

/-!
# Patching by a change set

A change set says what to do with the earlier snapshot to get the later one: keys that are marked as
removed are taken away, and all others are written (`patch`).  Since no key is written twice, what a
patched table has for a key depends on what the change set says of this key, and else on what was
there.

The mark of a removed key is a value like others.  A later snapshot that holds it under a key cannot
be told from one that does not have the key.

**Result.**
* `changes_exact`: a change set has exactly the keys that differ, in order, and patches the earlier
  snapshot into the later one; where there is none, the first failing comparison is the reason.
-/

namespace LiveConfig

open Value

/-! ## Patching -/

/-- The value that a change set tells to write, unless it is the mark of a removed key. -/
def Value.toWrite? : Value → Option Value
  | .removed => none
  | x => some x

/-- Takes a key away if it is marked as removed, and writes it otherwise. -/
def patchEntry (t : Entries) (e : Value × Value) : Entries :=
  match e.2.toWrite? with
  | none => t.erase e.1
  | some x => t.insert e.1 x

/-- Takes away what a change set marks as removed, and writes all else. -/
def patch (t changed : Entries) : Entries :=
  changed.entries.foldl patchEntry t

theorem get?_patchEntry (t : Entries) (e : Value × Value) (key : Value) :
    (patchEntry t e).get? key = if e.1 == key then e.2.toWrite? else t.get? key := by
  unfold patchEntry
  cases e.2.toWrite? with
  | none => exact Table.get?_erase t e.1 key
  | some x => exact Table.get?_insert t e.1 key x

theorem get?_foldl_patchEntry {es : List (Value × Value)} (hd : DistinctKeys es) (t : Entries)
    (key : Value) :
    (es.foldl patchEntry t).get? key =
      ((firstValue? key es).map Value.toWrite?).getD (t.get? key) := by
  induction es generalizing t with
  | nil => rfl
  | cons e es ih =>
    obtain ⟨hhead, htail⟩ := List.pairwise_cons.mp hd
    rw [List.foldl_cons, ih htail, get?_patchEntry, firstValue?]
    by_cases hek : (e.1 == key) = true
    · simp [firstValue?_of_head hhead hek, hek]
    · simp [hek]

/-- What a patched table has for a key: what the change set says, else what was there. -/
theorem get?_patch (t changed : Entries) (key : Value) :
    (patch t changed).get? key =
      ((changed.get? key).map Value.toWrite?).getD (t.get? key) :=
  get?_foldl_patchEntry changed.distinct t key

/-- Where the later snapshot has nothing, nothing is left. -/
theorem patched_none (x : Option Value) :
    ((changeOf? x none).map Value.toWrite?).getD x = none := by
  cases x <;> rfl

/-- What the later snapshot has is written, or what was there agrees with it. -/
theorem exists_patched {x : Option Value} {new : Value} (hnew : new ≠ .removed) :
    ∃ y, ((changeOf? x (some new)).map Value.toWrite?).getD x = some y ∧
      ((changeOf? x (some new)).isSome = true → y = new) ∧
      ((changeOf? x (some new)).isSome = false → y.agrees new = true) := by
  have hwrite : new.toWrite? = some new := by
    cases new with
    | removed => exact absurd rfl hnew
    | _ => rfl
  cases x with
  | none => exact ⟨new, hwrite, fun _ => rfl, fun h => nomatch h⟩
  | some old =>
    cases hagrees : old.agrees new with
    | true => exact ⟨old, by simp [changeOf?, hagrees]⟩
    | false => exact ⟨new, by simp [changeOf?, hagrees, hwrite]⟩

/-! ## What a change set is -/

/--
**A change set is exact.**  If the values of shared keys can be compared, there is a change set.  It
has a key if and only if one snapshot has it and the other has not, or both have it with values that
do not agree.  If the later snapshot does not hold the mark itself, the earlier one is patched into a
table with exactly the keys of the later one, whose values come from the change set as they are, or
else agree.  Removed and modified keys stand first, in the order of the earlier snapshot, and then the
added ones in the order of the later.  Nothing changes from a snapshot, whose keys can all be found
again, to itself if and only if every value but null is equal to itself.  A change set fails with the
first comparison that fails, in the order of the earlier snapshot.
-/
theorem changes_exact (before after : Entries) :
    (AllCompare after before.entries →
      ∃ changed, changes before after = .ok changed ∧
        (∀ key, changed.contains key = true ↔
          before.contains key ≠ after.contains key ∨
            ∃ old new, before.get? key = some old ∧ after.get? key = some new ∧
              old.agrees new = false) ∧
        ((∀ e ∈ after.entries, e.2 ≠ .removed) →
          (∀ key, (patch before changed).contains key = after.contains key) ∧
          ∀ key new, after.get? key = some new →
            ∃ x, (patch before changed).get? key = some x ∧
              (changed.contains key = true → x = new) ∧
              (changed.contains key = false → x.agrees new = true)) ∧
        changed.entries =
          modifiedEntries after before.entries ++ addedEntries before after.entries) ∧
    ((∀ key ∈ before.keys, (key == key) = true) →
      (changes before before = .ok Table.empty ↔
        ∀ e ∈ before.entries, e.2 ≠ .null → e.2.equal? e.2 = .ok true)) ∧
    ∀ failure, changes before after = .error failure ↔
      ∃ earlier key old later new, before.entries = earlier ++ (key, old) :: later ∧
        AllCompare after earlier ∧ after.get? key = some new ∧ old.ComparisonFails new failure := by
  have hunmarked (hmark : ∀ e ∈ after.entries, e.2 ≠ .removed) {key new : Value}
      (hnew : after.get? key = some new) : new ≠ .removed := by
    obtain ⟨k, hmem, -⟩ := Table.get?_eq_some_iff.mp hnew
    exact hmark _ hmem
  refine ⟨fun hcompare => ?_, fun hkeys => ?_, fun failure => ?_⟩
  · obtain ⟨changed, hchanges, hentries⟩ := entries_changes hcompare
    have hget := get?_of_entries_changes hentries
    refine ⟨changed, hchanges, fun key => ?_, fun hmark => ⟨fun key => ?_, fun key new hnew => ?_⟩,
      hentries⟩
    · rw [Table.contains, hget]
      exact isSome_changeOf?_iff
    · rw [Table.contains, Table.contains, get?_patch, hget]
      cases hnew : after.get? key with
      | none => rw [patched_none]
      | some new =>
        obtain ⟨y, hy, -⟩ := exists_patched (x := before.get? key) (hunmarked hmark hnew)
        rw [hy]
        rfl
    · rw [get?_patch, Table.contains, hget, hnew]
      exact exists_patched (hunmarked hmark hnew)
  · exact changes_self_iff hkeys
  · exact changes_eq_error_iff.trans changedEntries_eq_error_iff

/-- A snapshot with a whole number as a key, with null, and with a not-a-number. -/
def earlierExample : Entries :=
  ⟨[(.str "n", .null), (.int 1, .str "x"), (.str "q", .float (.nan 1)), (.str "two", .int 2),
      (.str "gone", .bool true)], by unfold DistinctKeys; decide +kernel⟩

/-- A snapshot in which a truth value stands for the same key as the number. -/
def laterExample : Entries :=
  ⟨[(.str "new", .null), (.bool true, .str "y"), (.str "two", .float ⟨0x4000000000000000⟩),
      (.str "q", .float (.nan 1)), (.str "n", .null)], by unfold DistinctKeys; decide +kernel⟩

/-- A snapshot with values that refuse to be compared. -/
def refusingExample : Entries :=
  ⟨[(.str "n", .flawed "unasked" 1), (.str "q", .flawed "late" 2), (.int 1, .flawed "early" 3)],
    by unfold DistinctKeys; decide +kernel⟩

/--
Two equal numbers of different kinds have not changed, and neither has null; a not-a-number has.
Null is not compared with a value that refuses it.
-/
theorem changes_exact_example :
    AllCompare laterExample earlierExample.entries ∧
    (∀ e ∈ laterExample.entries, e.2 ≠ .removed) ∧
    (∀ key ∈ earlierExample.keys, (key == key) = true) ∧
    (∃ changed, changes earlierExample laterExample = .ok changed ∧
      changed.keys.map Value.display = ["1", "q", "gone", "new"] ∧
      changed.contains (.bool true) = true ∧
      (patch earlierExample changed).get? (.int 1) = some (.str "y") ∧
      (patch earlierExample changed).contains (.str "gone") = false) ∧
    changes earlierExample earlierExample ≠ .ok Table.empty ∧
    changes earlierExample refusingExample = .error (.incomparable "early") := by
  have hcompare : AllCompare laterExample earlierExample.entries :=
    allCompare_of_isOk (by decide +kernel)
  have hmark : ∀ e ∈ laterExample.entries, e.2 ≠ .removed := by
    simp [laterExample]
  have hkeys : ∀ key ∈ earlierExample.keys, (key == key) = true := by decide +kernel
  have hnumber : laterExample.get? (.int 1) = some (.str "y") :=
    Table.get?_eq_some_iff.mpr ⟨.bool true, by simp [laterExample], by decide +kernel⟩
  obtain ⟨hpatch, hself, -⟩ := changes_exact earlierExample laterExample
  obtain ⟨-, -, hfails⟩ := changes_exact earlierExample refusingExample
  obtain ⟨changed, hchanges, hiff, hpatched, hentries⟩ := hpatch hcompare
  obtain ⟨hcontains, hget⟩ := hpatched hmark
  have hchanged {key : Value} (hkey : (key == .int 1) = true) : changed.contains key = true := by
    refine (hiff key).mpr (Or.inr ⟨.str "x", .str "y", ?_, ?_, by decide +kernel⟩)
    · exact Table.get?_eq_some_iff.mpr ⟨.int 1, by simp [earlierExample], BEq.symm hkey⟩
    · exact (firstValue?_congr hkey _).trans hnumber
  refine ⟨hcompare, hmark, hkeys, ⟨changed, hchanges, ?_, hchanged (by decide +kernel), ?_, ?_⟩,
    fun hsame => ?_, ?_⟩
  · rw [Table.keys, hentries]
    decide +kernel
  · obtain ⟨x, hx, hwritten, -⟩ := hget (.int 1) (.str "y") hnumber
    rw [hx, hwritten (hchanged (by decide +kernel))]
  · rw [hcontains]
    decide +kernel
  · have hnan := (hself hkeys).mp hsame (.str "q", .float (.nan 1)) (by simp [earlierExample])
      Value.noConfusion
    have hagrees := (agrees_of_ne_null Value.noConfusion Value.noConfusion).mpr hnan
    exact absurd hagrees (by decide +kernel)
  · have hrefuses : (Value.str "x").ComparisonFails (.flawed "early" 3) (.incomparable "early") := by
      obtain ⟨agree, hagree⟩ := exists_equal?_eq (.str "x") (.flawed "early" 3)
      exact ⟨Value.noConfusion, Value.noConfusion, .flawed "early", hagree, rfl⟩
    refine (hfails _).mpr ⟨[(.str "n", .null)], .int 1, .str "x", _, _, rfl, ?_, ?_, hrefuses⟩
    · exact allCompare_of_isOk (by decide +kernel)
    · exact Table.get?_eq_some_iff.mpr ⟨.int 1, by simp [refusingExample], by decide +kernel⟩

end LiveConfig
