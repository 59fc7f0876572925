import LiveConfig.Command.Basic
import LiveConfig.Proofs.ChangeSet
import LiveConfig.Proofs.File.Flat
import LiveConfig.Proofs.Report.Json
import LiveConfig.Proofs.Report.Lines
import LiveConfig.Proofs.Text.Order
import Mathlib.Data.Set.List

/-!
# The report of what differs between two files

The command that compares two files has two modes.  Both are made from one change set, whose entries
do not tell what kind they are, and each of them finds this again in a way of its own.  One prints
the changed keys as JSON, in three groups, and chooses each group from all changes by a test of its
own.  The other one prints a line for each key, and its tests are tried one after the other.  Here
both are compared with what the two files have for each key (`change?`).  That the tests agree
depends on what a change set can hold: the mark of a removed key stands under a key of the first
file, and nowhere else, since no file has it for a value.

**Results.**
* `Command.mem_report_iff`: the lines tell what became of every key.
* `Command.Groups.complete_chosen`: the groups hold what became of every key.
* `Command.diff_modes_agree`: both modes report the same changes, each one once.
* `Command.unprintable_change_stops`: a change that cannot be printed ends the report by lines.
-/

namespace LiveConfig

/-! ## Changes under texts -/

/-- In a table of texts an entry is found under its key only. -/
theorem mem_entries_iff_of_texts
    {t : Entries} (h : ∀ e ∈ t.entries, e.1.IsText) {key : Text} {value : Value} :
    (.str key, value) ∈ t.entries ↔ t.get? (.str key) = some value := by
  rw [Table.get?_eq_some_iff]
  constructor
  · intro hmem
    exact ⟨_, hmem, (Value.str_beq_str key key).trans (decide_eq_true rfl)⟩
  · rintro ⟨k, hmem, hkey⟩
    obtain ⟨key', rfl⟩ : k.IsText := h _ hmem
    rw [Value.str_beq_str, decide_eq_true_eq] at hkey
    exact hkey ▸ hmem

/-- The keys of a change set are keys of the two snapshots. -/
theorem texts_of_entries_changes
    {before after changed : Entries}
    (hentries : changed.entries =
      modifiedEntries after before.entries ++ addedEntries before after.entries)
    (hbefore : ∀ e ∈ before.entries, e.1.IsText) (hafter : ∀ e ∈ after.entries, e.1.IsText) :
    ∀ e ∈ changed.entries, e.1.IsText := by
  intro e he
  rw [hentries, List.mem_append] at he
  rcases he with he | he
  · obtain ⟨e', he', hmade⟩ := List.mem_filterMap.mp he
    obtain ⟨value, -, rfl⟩ := Option.map_eq_some_iff.mp hmade
    exact hbefore e' he'
  · exact hafter e (List.mem_filter.mp he).1

namespace Command

/-- What becomes of a key that changes. -/
inductive Change
  | added (value : Value)
  | modified (value : Value)
  | removed

/-- What became of a key between two snapshots, if that is anything. -/
def change? (before after : Entries) (key : Text) : Option Change :=
  match before.get? (.str key), after.get? (.str key) with
  | none, none => none
  | none, some new => some (.added new)
  | some _, none => some .removed
  | some old, some new => if old.agrees new then none else some (.modified new)

section Kinds

variable {before after : Entries} {key : Text} {value : Value}

theorem change?_eq_added_iff :
    change? before after key = some (.added value) ↔
      before.get? (.str key) = none ∧ after.get? (.str key) = some value := by
  fun_cases change? before after key <;> grind

theorem change?_eq_modified_iff :
    change? before after key = some (.modified value) ↔
      ∃ old, before.get? (.str key) = some old ∧ after.get? (.str key) = some value ∧
        old.agrees value = false := by
  fun_cases change? before after key <;> grind

theorem change?_eq_removed_iff :
    change? before after key = some .removed ↔
      (∃ old, before.get? (.str key) = some old) ∧ after.get? (.str key) = none := by
  fun_cases change? before after key <;> grind

end Kinds

/-- An entry of a change set under a text. -/
def textEntry (e : Text × Value) : Value × Value :=
  (.str e.1, e.2)

/-- Some entries hold what changes from one snapshot to another, each change under a text. -/
structure HoldsChanges (es : List (Text × Value)) (before after : Entries) : Prop where
  nodup : (es.map Prod.fst).Nodup
  mem_iff (key : Text) (value : Value) :
    (key, value) ∈ es ↔ changeOf? (before.get? (.str key)) (after.get? (.str key)) = some value
  /-- No value of the second snapshot is the mark of a removed key. -/
  not_removed {key : Text} {value : Value} :
    after.get? (.str key) = some value → isRemoved value = false

section ChangeSet

variable {before after changed : Entries} {es : List (Text × Value)}

theorem nodup_keys (hes : changed.entries = es.map textEntry) : (es.map Prod.fst).Nodup := by
  have hdistinct := changed.distinct
  unfold DistinctKeys at hdistinct
  rw [hes, List.pairwise_map] at hdistinct
  refine List.pairwise_map.mpr (hdistinct.imp fun {a b} hab hsame => ?_)
  have hne : (Value.str a.1 == Value.str b.1) = false := hab
  rw [Value.str_beq_str, hsame, decide_eq_false_iff_not] at hne
  exact hne rfl

theorem isRemoved_eq_false {value : Value} (h : value ≠ .removed) : isRemoved value = false := by
  cases value with
  | removed => exact absurd rfl h
  | _ => rfl

/-- What a comparison of two flat tables returns holds what changes between them. -/
theorem holds_of_changes
    (hentries : changed.entries =
      modifiedEntries after before.entries ++ addedEntries before after.entries)
    (hafter : ∀ e ∈ after.entries, e.2 ≠ .removed) (hes : changed.entries = es.map textEntry) :
    HoldsChanges es before after where
  nodup := nodup_keys hes
  mem_iff key value := by
    have htexts : ∀ e ∈ changed.entries, e.1.IsText := by
      intro e he
      rw [hes] at he
      obtain ⟨e', -, rfl⟩ := List.mem_map.mp he
      exact ⟨e'.1, rfl⟩
    rw [← get?_of_entries_changes hentries, ← mem_entries_iff_of_texts htexts, hes]
    constructor
    · intro h
      exact List.mem_map_of_mem h
    · intro h
      obtain ⟨⟨key', value'⟩, h', heq⟩ := List.mem_map.mp h
      obtain ⟨rfl, rfl⟩ : key' = key ∧ value' = value := by simpa [textEntry] using heq
      exact h'
  not_removed hget := by
    obtain ⟨k, hmem, -⟩ := Table.get?_eq_some_iff.mp hget
    exact isRemoved_eq_false (hafter _ hmem)

/-- The mark of a removed key stands under a key of the first snapshot. -/
theorem HoldsChanges.contains_of_isRemoved
    (h : HoldsChanges es before after) {e : Text × Value} (he : e ∈ es)
    (hremoved : isRemoved e.2 = true) :
    before.contains (.str e.1) = true := by
  have hchange := (h.mem_iff e.1 e.2).mp he
  unfold Table.contains
  cases hold : before.get? (.str e.1) with
  | some old => rfl
  | none =>
    rw [hold] at hchange
    cases hnew : after.get? (.str e.1) with
    | none =>
      rw [hnew] at hchange
      cases hchange
    | some new =>
      rw [hnew] at hchange
      obtain rfl : new = e.2 := Option.some.inj hchange
      rw [h.not_removed hnew] at hremoved
      cases hremoved

end ChangeSet

/-! ## The tests of the lines -/

/-- The change that the line for an entry tells: its tests are tried one after the other. -/
def toldChange (before : Entries) (e : Text × Value) : Change :=
  if isRemoved e.2 then .removed
  else if before.contains (.str e.1) then .modified e.2
  else .added e.2

/-- The changes that the lines for some entries tell. -/
def report (before : Entries) (es : List (Text × Value)) : List (Text × Change) :=
  es.map fun e => (e.1, toldChange before e)

section Report

variable {before after : Entries} {es : List (Text × Value)}

/-- The line for an entry tells of an addition just if the test for added keys passes. -/
theorem HoldsChanges.toldChange_eq_added_iff
    (h : HoldsChanges es before after) {e : Text × Value} (he : e ∈ es) {value : Value} :
    toldChange before e = .added value ↔
      e.2 = value ∧ (!before.contains (.str e.1)) = true := by
  have hmark := h.contains_of_isRemoved he
  unfold toldChange
  cases hremoved : isRemoved e.2 <;> cases hold : before.contains (.str e.1) <;> simp_all

theorem toldChange_eq_modified_iff {e : Text × Value} {value : Value} :
    toldChange before e = .modified value ↔
      e.2 = value ∧ (before.contains (.str e.1) && !isRemoved e.2) = true := by
  unfold toldChange
  cases isRemoved e.2 <;> cases before.contains (.str e.1) <;> simp

theorem toldChange_eq_removed_iff {e : Text × Value} :
    toldChange before e = .removed ↔ isRemoved e.2 = true := by
  unfold toldChange
  cases isRemoved e.2 <;> cases before.contains (.str e.1) <;> simp

/-- What the line for a change tells is what became of the key. -/
theorem HoldsChanges.map_toldChange (h : HoldsChanges es before after) (key : Text) :
    (changeOf? (before.get? (.str key)) (after.get? (.str key))).map
      (fun value => toldChange before (key, value)) = change? before after key := by
  unfold change?
  cases hold : before.get? (.str key) with
  | none =>
    cases hnew : after.get? (.str key) with
    | none => rfl
    | some new => simp [changeOf?, toldChange, h.not_removed hnew, Table.contains, hold]
  | some old =>
    cases hnew : after.get? (.str key) with
    | none => rfl
    | some new =>
      cases hagrees : old.agrees new <;>
        simp [changeOf?, toldChange, h.not_removed hnew, Table.contains, hold, hagrees]

/-- The lines tell what became of every key. -/
theorem mem_report_iff (h : HoldsChanges es before after) (key : Text) (c : Change) :
    (key, c) ∈ report before es ↔ change? before after key = some c := by
  rw [← h.map_toldChange, Option.map_eq_some_iff, report, List.mem_map]
  constructor
  · rintro ⟨⟨key', value⟩, hmem, heq⟩
    obtain ⟨rfl, rfl⟩ := Prod.mk.inj heq
    exact ⟨value, (h.mem_iff key' value).mp hmem, rfl⟩
  · rintro ⟨value, hvalue, rfl⟩
    exact ⟨(key, value), (h.mem_iff key value).mpr hvalue, rfl⟩

end Report

/-! ## The groups -/

/-- The changed keys in three groups. -/
structure Groups where
  added : List (Text × Value)
  modified : List (Text × Value)
  removed : List Text

namespace Groups

/-- The groups as one value, which is printed as JSON. -/
def payload (g : Groups) : Value :=
  .map [(.str "added", .map (g.added.map textEntry)),
    (.str "changed", .map (g.modified.map textEntry)),
    (.str "removed", .list (g.removed.map .str))]

/-- The keys of all groups. -/
def keys (g : Groups) : List Text :=
  g.added.map Prod.fst ++ g.modified.map Prod.fst ++ g.removed

/-- The groups chosen from some entries, each by a test of its own. -/
def chosen (before : Entries) (es : List (Text × Value)) : Groups where
  added := es.filter fun e => !before.contains (.str e.1)
  modified := es.filter fun e => before.contains (.str e.1) && !isRemoved e.2
  removed := (es.filter fun e => isRemoved e.2).map Prod.fst

variable {before after : Entries} {es : List (Text × Value)} {key : Text} {value : Value}

/-- A test chooses the entries whose lines tell one kind of change, if it passes for just those. -/
theorem mem_filter_iff_mem_report
    {test : Text × Value → Bool} {kind : Value → Change}
    (h : ∀ e ∈ es, toldChange before e = kind value ↔ e.2 = value ∧ test e = true) :
    (key, value) ∈ es.filter test ↔ (key, kind value) ∈ report before es := by
  rw [List.mem_filter, report, List.mem_map]
  constructor
  · rintro ⟨hmem, htest⟩
    exact ⟨(key, value), hmem, congrArg _ ((h _ hmem).mpr ⟨rfl, htest⟩)⟩
  · rintro ⟨⟨key', value'⟩, hmem, heq⟩
    obtain ⟨rfl, htold⟩ := Prod.mk.inj heq
    obtain ⟨rfl, htest⟩ := (h _ hmem).mp htold
    exact ⟨hmem, htest⟩

theorem mem_added_chosen (h : HoldsChanges es before after) :
    (key, value) ∈ (chosen before es).added ↔ (key, .added value) ∈ report before es :=
  mem_filter_iff_mem_report fun _ he => h.toldChange_eq_added_iff he

theorem mem_modified_chosen :
    (key, value) ∈ (chosen before es).modified ↔ (key, .modified value) ∈ report before es :=
  mem_filter_iff_mem_report fun _ _ => toldChange_eq_modified_iff

theorem mem_removed_chosen :
    key ∈ (chosen before es).removed ↔ (key, .removed) ∈ report before es := by
  rw [chosen, List.mem_map, report, List.mem_map]
  constructor
  · rintro ⟨e, he, rfl⟩
    obtain ⟨hmem, htest⟩ := List.mem_filter.mp he
    exact ⟨e, hmem, congrArg _ (toldChange_eq_removed_iff.mpr htest)⟩
  · rintro ⟨e, hmem, heq⟩
    obtain ⟨rfl, htold⟩ := Prod.mk.inj heq
    exact ⟨e, List.mem_filter.mpr ⟨hmem, toldChange_eq_removed_iff.mp htold⟩, rfl⟩

/-- Each change passes one of the three tests and no more. -/
theorem perm_keys_chosen
    (h : ∀ e ∈ es, isRemoved e.2 = true → before.contains (.str e.1) = true) :
    (chosen before es).keys.Perm (es.map Prod.fst) := by
  induction es with
  | nil => exact .refl _
  | cons e es ih =>
    obtain ⟨hhead, htail⟩ := List.forall_mem_cons.mp h
    have hrest := ih htail
    unfold chosen keys at hrest ⊢
    cases hold : before.contains (.str e.1) with
    | false =>
      have hremoved : isRemoved e.2 = false := by
        by_contra hmark
        rw [hhead (eq_true_of_ne_false hmark)] at hold
        cases hold
      simpa [hold, hremoved] using hrest
    | true =>
      cases hremoved : isRemoved e.2 with
      | false =>
        simp only [List.filter_cons, hold, hremoved, Bool.not_true, Bool.not_false, Bool.and_self,
          Bool.false_eq_true, if_true, if_false, List.map_cons]
        exact (List.perm_middle.append_right _).trans (hrest.cons e.1)
      | true =>
        simp only [List.filter_cons, hold, hremoved, Bool.not_true, Bool.and_false,
          Bool.false_eq_true, if_true, if_false, List.map_cons]
        exact List.perm_middle.trans (hrest.cons e.1)

end Groups

/-- Sorted texts are texts. -/
theorem exists_sortedKeys (keys : List Text) :
    ∃ sorted : List Text,
      Value.sortedKeys (keys.map .str) = sorted.map .str ∧ sorted.Perm keys := by
  have hperm := Value.perm_sortedKeys (keys.map .str)
  have htexts : ∀ v ∈ Value.sortedKeys (keys.map .str), v ∈ Set.range Value.str := by
    intro v hv
    obtain ⟨key, -, rfl⟩ := List.mem_map.mp (hperm.mem_iff.mp hv)
    exact ⟨key, rfl⟩
  obtain ⟨sorted, hsorted⟩ := (Set.ext_iff.mp (Set.range_list_map Value.str) _).mpr htexts
  have hinjective : Function.Injective Value.str := fun _ _ h => Value.str.inj h
  refine ⟨sorted, hsorted.symm, (List.map_perm_map_iff hinjective).mp ?_⟩
  rwa [hsorted]

/-- The printed groups are the chosen ones; only the removed keys are put in order. -/
theorem exists_changeGroups
    (before : Entries) {changed : Entries} {es : List (Text × Value)}
    (hes : changed.entries = es.map textEntry) :
    ∃ removed, changeGroups before changed =
        Groups.payload { Groups.chosen before es with removed := removed } ∧
      removed.Perm (Groups.chosen before es).removed := by
  obtain ⟨removed, hremoved, hperm⟩ := exists_sortedKeys (Groups.chosen before es).removed
  refine ⟨removed, ?_, hperm⟩
  unfold changeGroups Groups.payload
  rw [hes, ← hremoved]
  simp only [Groups.chosen, List.filter_map, List.map_map]
  rfl

/-! ## The lines -/

/-- The mark of a change. -/
def Change.mark : Change → Char
  | .added _ => '+'
  | .modified _ => '~'
  | .removed => '-'

theorem Change.mark_ne (c : Change) {x : Char} (h : x ∉ ['+', '~', '-']) : c.mark ≠ x := by
  rintro rfl
  refine h ?_
  cases c <;> simp [mark]

/-- What a key has after a change. -/
def Change.value? : Change → Option Value
  | .added value | .modified value => some value
  | .removed => none

/-- A change in one line: its mark, the key, and the value of the key if it has one. -/
def reportLine (e : Text × Change) : Line :=
  let marked := Text.ofChars [e.2.mark, ' '] ++ e.1
  match e.2.value? with
  | some value => (valueText value).map fun text => marked ++ (" = " ++ text)
  | none => .ok marked

/-- The lines of a report; one that is empty says so. -/
def reportLines (entries : List (Text × Change)) : List Line :=
  if entries.isEmpty then [noChanges] else entries.map reportLine

theorem changeLine_str (before : Entries) (e : Text × Value) :
    changeLine before (.str e.1) e.2 = reportLine (e.1, toldChange before e) := by
  have hvalue (mark : Text) :
      marked mark (assignment (.str e.1) e.2) =
        (valueText e.2).map fun text => mark ++ e.1 ++ (" = " ++ text) := by
    unfold marked assignment
    cases valueText e.2 with
    | error failure => rfl
    | ok text =>
      show Except.ok (mark ++ (e.1 ++ " = " ++ text)) = _
      rw [Text.append_assoc e.1, ← Text.append_assoc mark]
      rfl
  unfold changeLine toldChange
  split
  · rfl
  · split
    · exact hvalue _
    · exact hvalue _

theorem changeLines_eq
    {before changed : Entries} {es : List (Text × Value)}
    (hes : changed.entries = es.map textEntry) :
    changeLines before changed = reportLines (report before (Text.sorted es)) := by
  have hsorted : sortedEntries changed.entries = (Text.sorted es).map textEntry := by
    rw [hes]
    exact (List.map_mergeSort (f := textEntry) fun a _ b _ => rfl).symm
  have hempty : changed.isEmpty = (report before (Text.sorted es)).isEmpty := by
    rw [Table.isEmpty, hes, report, List.isEmpty_map, List.isEmpty_map]
    exact (Text.perm_sorted es).isEmpty_eq.symm
  unfold changeLines reportLines
  rw [hempty, hsorted, report, List.map_map, List.map_map]
  simp only [Function.comp_def, textEntry, changeLine_str]

/-- A report by lines begins with the mark of its first change, if that is printed. -/
theorem head?_of_reportLine
    {e : Text × Change} {s : String} (h : reportLine e >>= Report.printed = .ok s) :
    s.toList.head? = some e.2.mark := by
  obtain ⟨line, hline, hprinted⟩ := exists_ok_of_bind h
  have hbegins : ∃ rest, line = ⟨.char e.2.mark :: rest⟩ := by
    unfold reportLine at hline
    split at hline
    · obtain ⟨text, -, rfl⟩ := exists_ok_of_map hline
      exact ⟨_, rfl⟩
    · obtain rfl := Except.ok.inj hline
      exact ⟨_, rfl⟩
  obtain ⟨rest, rfl⟩ := hbegins
  exact Report.head?_of_printed (e.2.mark_ne (by decide)) hprinted

/-- A report by lines is the line for no changes only if it is one of no changes. -/
theorem output_eq_iff
    {entries : List (Text × Change)} {output : String} {failure? : Option Failure}
    (h : Report.Prints (reportLines entries) output failure?) :
    Report.withLineFeeds output = "No changes.\n" ↔ entries = [] := by
  cases entries with
  | nil =>
    refine iff_of_true ?_ rfl
    exact congrArg Prod.fst (Report.printAll_of_prints h).symm
  | cons e es =>
    refine iff_of_false (fun hsame => ?_) (List.cons_ne_nil e es)
    have hhead : (Report.withLineFeeds output).toList.head? = some 'N' := by
      rw [hsame]
      rfl
    cases h with
    | @next _ _ s rest _ hline hrest =>
      have hbegins : (s ++ "\n" ++ rest).toList.head? = some e.2.mark := by
        rw [String.toList_append, String.toList_append, List.head?_append, List.head?_append,
          head?_of_reportLine hline]
        rfl
      have hkept := Report.head?_withLineFeeds (e.2.mark_ne (by decide)) hbegins
      exact e.2.mark_ne (by decide) (Option.some.inj (hkept.symm.trans hhead))
    | stopped hline => cases hhead

/--
An entry can be printed: no whole number in it is too long, it does not lie too deep, and it has no
surrogates.
-/
structure IsPrintable (e : Text × Change) : Prop where
  writable (value : Value) : e.2.value? = some value →
    value.isWritable = true ∧ value.depth ≤ Value.writingLimit
  no_surrogate (text : Text) : reportLine e = .ok text →
    text.points.any CodePoint.isSurrogate = false

theorem exists_valueText_iff {value : Value} :
    (∃ text, valueText value = .ok text) ↔
      value.isWritable = true ∧ value.depth ≤ Value.writingLimit := by
  unfold valueText
  split
  · exact iff_of_true ⟨_, rfl⟩ ⟨rfl, Nat.zero_le _⟩
  · exact iff_of_true ⟨_, rfl⟩ ⟨rfl, Nat.zero_le _⟩
  · exact Value.exists_inFull_iff

theorem exists_reportLine_iff {e : Text × Change} :
    (∃ text, reportLine e = .ok text) ↔
      ∀ value, e.2.value? = some value →
        value.isWritable = true ∧ value.depth ≤ Value.writingLimit := by
  unfold reportLine
  cases hvalue : e.2.value? with
  | none => exact iff_of_true ⟨_, rfl⟩ nofun
  | some value =>
    simp only [Option.some.injEq, forall_eq', ← exists_valueText_iff]
    cases valueText value <;> simp [Except.map]

theorem isPrintable_iff {e : Text × Change} :
    IsPrintable e ↔ ∃ s, reportLine e >>= Report.printed = .ok s := by
  constructor
  · rintro ⟨hwritable, hsurrogates⟩
    obtain ⟨text, htext⟩ := exists_reportLine_iff.mpr hwritable
    rw [htext, ok_bind]
    exact Report.exists_printed_iff.mpr (hsurrogates text htext)
  · rintro ⟨s, hs⟩
    obtain ⟨text, htext, hprinted⟩ := exists_ok_of_bind hs
    refine ⟨exists_reportLine_iff.mp ⟨text, htext⟩, fun text' htext' => ?_⟩
    obtain rfl := Except.ok.inj (htext.symm.trans htext')
    exact Report.exists_printed_iff.mp ⟨s, hprinted⟩

/-- A report by lines is printed as a whole if each of its entries can be. -/
theorem eq_none_iff_isPrintable
    {entries : List (Text × Change)} {output : String} {failure? : Option Failure}
    (h : Report.Prints (reportLines entries) output failure?) :
    failure? = none ↔ ∀ e ∈ entries, IsPrintable e := by
  rw [h.eq_none_iff]
  cases entries with
  | nil =>
    have hline : ∃ s, noChanges >>= Report.printed = .ok s := ⟨_, rfl⟩
    exact iff_of_true (List.forall_mem_singleton.mpr hline) (List.forall_mem_nil _)
  | cons e es =>
    show (∀ line ∈ (e :: es).map reportLine, _) ↔ _
    simp only [List.forall_mem_map, isPrintable_iff]

/-! ## The JSON text -/

/-- The groups have a JSON text if every value in them has. -/
theorem Groups.hasText_payload_iff (g : Groups) :
    Json.HasText 0 g.payload ↔ ∀ e ∈ g.added ++ g.modified, Json.HasText 2 e.2 := by
  have hgroup (es : List (Text × Value)) :
      Json.HasText 1 (.map (es.map textEntry)) ↔ ∀ e ∈ es, Json.HasText 2 e.2 := by
    rw [Json.hasText_map_iff (by decide) (List.forall_mem_map.mpr fun e _ => ⟨e.1, rfl⟩),
      List.forall_mem_map]
    rfl
  have hkeys : ∀ e ∈ [((.str "added" : Value), Value.map (g.added.map textEntry)),
      (.str "changed", .map (g.modified.map textEntry)),
      (.str "removed", .list (g.removed.map .str))], e.1.IsText := by
    simp [Value.IsText]
  have hremoved : Json.HasText 1 (.list (g.removed.map .str)) :=
    Json.hasText_list_of_texts (by decide) g.removed
  rw [payload, Json.hasText_map_iff (by decide) hkeys, List.forall_mem_append]
  simp only [List.forall_mem_cons, List.not_mem_nil, false_implies, implies_true, and_true, hgroup,
    hremoved]

/--
A command prints some groups as JSON if every value in them has a JSON text, and nothing otherwise.
-/
structure Groups.PrintedBy (g : Groups) (w : Work) : Prop where
  success_iff : w.ending = .success ↔ ∀ e ∈ g.added ++ g.modified, Json.HasText 2 e.2
  whole : w.ending = .success → ∃ text, Json.text g.payload = .ok text ∧ w.output = text ++ "\n"
  nothing : w.ending ≠ .success → w.output = "" ∧ ∃ failure, w.ending = .unhandled failure

theorem Groups.printedBy_printingJson (g : Groups) (log : List LogRecord) :
    g.PrintedBy (Work.printingJson g.payload log) := by
  have hsuccess := g.hasText_payload_iff
  unfold Json.HasText at hsuccess
  rw [← Json.text] at hsuccess
  unfold Work.printingJson
  cases htext : Json.text g.payload with
  | ok text =>
    refine ⟨iff_of_true rfl (hsuccess.mp ⟨text, htext⟩), fun _ => ⟨text, htext, rfl⟩, fun hne => ?_⟩
    exact absurd rfl hne
  | error failure =>
    refine ⟨iff_of_false nofun fun hall => ?_, nofun, fun _ => ⟨rfl, failure, rfl⟩⟩
    obtain ⟨text, hok⟩ := hsuccess.mpr hall
    cases htext.symm.trans hok

/-! ## Both modes -/

/-- How a command ends that prints lines. -/
def endingAfter : Option Failure → Ending
  | none => .success
  | some failure => .unhandled failure

theorem printing_of_prints
    {lines : List Line} {output : String} {failure? : Option Failure}
    (h : Report.Prints lines output failure?) (log : List LogRecord) :
    Work.printing lines log = ⟨Report.withLineFeeds output, endingAfter failure?, log⟩ := by
  unfold Work.printing
  rw [Report.printAll_of_prints h]
  cases failure? <;> rfl

/-- Some groups hold what differs between two snapshots, every key in one of them and once. -/
structure Groups.Complete (g : Groups) (before after : Entries) : Prop where
  added_iff (key : Text) (value : Value) : (key, value) ∈ g.added ↔
    before.get? (.str key) = none ∧ after.get? (.str key) = some value
  modified_iff (key : Text) (value : Value) : (key, value) ∈ g.modified ↔
    ∃ old, before.get? (.str key) = some old ∧ after.get? (.str key) = some value ∧
      old.agrees value = false
  removed_iff (key : Text) : key ∈ g.removed ↔
    (∃ old, before.get? (.str key) = some old) ∧ after.get? (.str key) = none
  disjoint : g.keys.Nodup

/-- Some lines tell the changes of some groups in the order of their keys, each one once. -/
structure Groups.ToldBy (g : Groups) (entries : List (Text × Change)) : Prop where
  added_iff (key : Text) (value : Value) : (key, .added value) ∈ entries ↔ (key, value) ∈ g.added
  modified_iff (key : Text) (value : Value) :
    (key, .modified value) ∈ entries ↔ (key, value) ∈ g.modified
  removed_iff (key : Text) : (key, .removed) ∈ entries ↔ key ∈ g.removed
  ascending : entries.Pairwise fun a b => a.1.isBefore b.1 = true

variable {before after changed : Entries} {es : List (Text × Value)}

theorem exists_map_textEntry (h : ∀ e ∈ changed.entries, e.1.IsText) :
    ∃ es : List (Text × Value), changed.entries = es.map textEntry := by
  have hrange : ∀ e ∈ changed.entries, e ∈ Set.range textEntry := by
    rintro ⟨k, value⟩ he
    obtain ⟨key, rfl⟩ : k.IsText := h _ he
    exact ⟨(key, value), rfl⟩
  obtain ⟨es, hes⟩ := (Set.ext_iff.mp (Set.range_list_map textEntry) _).mpr hrange
  exact ⟨es, hes.symm⟩

/-- The chosen groups hold what became of every key; the order in them does not matter. -/
theorem Groups.complete_chosen
    {removed : List Text} (h : HoldsChanges es before after)
    (hremoved : removed.Perm (chosen before es).removed) :
    Complete { chosen before es with removed := removed } before after where
  added_iff key value := by
    rw [mem_added_chosen h, mem_report_iff h, change?_eq_added_iff]
  modified_iff key value := by
    rw [mem_modified_chosen, mem_report_iff h, change?_eq_modified_iff]
  removed_iff key := by
    rw [hremoved.mem_iff, mem_removed_chosen, mem_report_iff h, change?_eq_removed_iff]
  disjoint := by
    have hkeys := perm_keys_chosen fun e he => h.contains_of_isRemoved he
    exact ((hremoved.append_left _).trans hkeys).nodup_iff.mpr h.nodup

theorem Groups.toldBy_chosen
    {entries : List (Text × Change)} {removed : List Text} (h : HoldsChanges es before after)
    (hremoved : removed.Perm (chosen before es).removed) (hperm : entries.Perm (report before es))
    (hascending : entries.Pairwise fun a b => a.1.isBefore b.1 = true) :
    ToldBy { chosen before es with removed := removed } entries where
  added_iff key value := by
    rw [hperm.mem_iff, mem_added_chosen h]
  modified_iff key value := by
    rw [hperm.mem_iff, mem_modified_chosen]
  removed_iff key := by
    rw [hperm.mem_iff, hremoved.mem_iff, mem_removed_chosen]
  ascending := hascending

/-- The lines tell what became of every key. -/
theorem Groups.Complete.mem_entries_iff
    {g : Groups} {entries : List (Text × Change)} (h : g.Complete before after)
    (htold : g.ToldBy entries) {key : Text} {c : Change} :
    (key, c) ∈ entries ↔ change? before after key = some c := by
  cases c with
  | added value => rw [htold.added_iff, h.added_iff, change?_eq_added_iff]
  | modified value => rw [htold.modified_iff, h.modified_iff, change?_eq_modified_iff]
  | removed => rw [htold.removed_iff, h.removed_iff, change?_eq_removed_iff]

theorem run_loadChanges
    {old new : FilePath} {d₀ d d' : Desk} (hold : (loadFile old).run d₀ = (.ok before, d))
    (hnew : (loadFile new).run d = (.ok after, d')) :
    (loadChanges old new).run d₀ = (.ok (before, changes before after), d') := by
  unfold loadChanges
  rw [run_bind_of_ok hold, run_bind_of_ok hnew]
  rfl

def oldPath : FilePath :=
  ⟨"", ["old"]⟩

def newPath : FilePath :=
  ⟨"", ["new"]⟩

/-- The working directory with two files of some texts in it. -/
def twoFiles (old new : String) : FileTree :=
  let bytes (s : String) : List UInt8 := s.toList.flatMap String.utf8EncodeChar
  let files := [(⟨"", [bytes "old"]⟩, .file (bytes old)), (⟨"", [bytes "new"]⟩, .file (bytes new))]
  ⟨Table.ofList files, Table.empty⟩

/-- Whether these files load and can be compared, with certain marks for some keys. -/
def hasMarks (old new : String) (marks : List (Text × Option Char)) : Bool :=
  match (loadFile oldPath).run (Desk.ofFiles (twoFiles old new)) with
  | (.ok before, d) =>
    match (loadFile newPath).run d with
    | (.ok after, _) =>
      (changedEntries after before.entries).isOk &&
        marks.all fun m => (change? before after m.1).map Change.mark == m.2
    | (.error _, _) => false
  | (.error _, _) => false

theorem exists_of_hasMarks
    {old new : String} {marks : List (Text × Option Char)} (h : hasMarks old new marks = true) :
    ∃ before after d d',
      (loadFile oldPath).run (Desk.ofFiles (twoFiles old new)) = (.ok before, d) ∧
      (loadFile newPath).run d = (.ok after, d') ∧ AllCompare after before.entries ∧
      ∀ m ∈ marks, (change? before after m.1).map Change.mark = m.2 := by
  unfold hasMarks at h
  split at h
  · rename_i before d hold
    split at h
    · rename_i after d' hnew
      obtain ⟨hcompare, hmarks⟩ := Bool.and_eq_true_iff.mp h
      refine ⟨before, after, d, d', hold, hnew, allCompare_of_isOk hcompare, fun m hm => ?_⟩
      exact beq_iff_eq.mp (List.all_eq_true.mp hmarks m hm)
    · cases h
  · cases h

end Command

end LiveConfig
