import LiveConfig.Table
import Mathlib.Data.List.Basic

/-!
# Tables and the writes that built them

A table answers a look-up with the value that was written last under an equal key, and lists
every key where it was first written.  Keys are compared by a partial equivalence throughout, so
nothing here assumes that a key equals itself.

**Results.**
* `firstValue?_eq_some_iff`: with distinct keys, finding an entry is having it.
* `Table.get?_insertAll`, `Table.get?_update`: the last write wins.
* `Table.keys_insertAll`: the first write places the key.
* `Table.update_ofList`: writing a table over another one is writing what built it.
-/

namespace LiveConfig

universe u v

section FirstValue

variable {κ : Type u} {ν : Type v} [BEq κ]

theorem firstValue?_append
    (k : κ) (es fs : List (κ × ν)) :
    firstValue? k (es ++ fs) = (firstValue? k es).or (firstValue? k fs) := by
  induction es with
  | nil => rfl
  | cons e es ih =>
    simp only [List.cons_append, firstValue?]
    split
    · rfl
    · exact ih

/-- A key is found exactly if some entry has an equal one. -/
theorem isSome_firstValue?
    {k : κ} {es : List (κ × ν)} :
    (firstValue? k es).isSome = true ↔ ∃ e ∈ es, (e.1 == k) = true := by
  induction es with
  | nil => simp [firstValue?]
  | cons e es ih =>
    by_cases h : (e.1 == k) = true
    · simp [firstValue?, h]
    · simp [firstValue?, h, ih]

/-- What is found is the value of an entry with an equal key. -/
theorem exists_mem_of_firstValue?
    {k : κ} {x : ν} {es : List (κ × ν)}
    (h : firstValue? k es = some x) :
    ∃ k', (k', x) ∈ es ∧ (k' == k) = true := by
  induction es with
  | nil => cases h
  | cons e es ih =>
    unfold firstValue? at h
    split at h
    · rename_i hk
      obtain rfl : e.2 = x := Option.some.inj h
      exact ⟨e.1, List.mem_cons_self, hk⟩
    · obtain ⟨k', hmem, hk⟩ := ih h
      exact ⟨k', List.mem_cons_of_mem _ hmem, hk⟩

/-- Changing all values changes what is found. -/
theorem firstValue?_map
    (f : ν → ν) (k : κ) (es : List (κ × ν)) :
    firstValue? k (es.map fun e => (e.1, f e.2)) = (firstValue? k es).map f := by
  induction es with
  | nil => rfl
  | cons e es ih =>
    simp only [List.map_cons, firstValue?]
    split
    · rfl
    · exact ih

variable [PartialEquivBEq κ]

/-- Equal keys find the same. -/
theorem firstValue?_congr
    {k k' : κ} (h : (k == k') = true) (es : List (κ × ν)) :
    firstValue? k es = firstValue? k' es := by
  induction es with
  | nil => rfl
  | cons e es ih =>
    have hcongr : (e.1 == k) = (e.1 == k') := BEq.congr_right h
    simp only [firstValue?, hcongr, ih]

/-- With distinct keys, a value is found exactly if an entry has it under an equal key. -/
theorem firstValue?_eq_some_iff
    {k : κ} {x : ν} {es : List (κ × ν)} (hd : DistinctKeys es) :
    firstValue? k es = some x ↔ ∃ k', (k', x) ∈ es ∧ (k' == k) = true := by
  refine ⟨exists_mem_of_firstValue?, ?_⟩
  rintro ⟨k', hmem, hk⟩
  induction es with
  | nil => cases hmem
  | cons e es ih =>
    obtain ⟨hhead, htail⟩ := List.pairwise_cons.1 hd
    rcases List.mem_cons.1 hmem with rfl | hmem
    · simp [firstValue?, hk]
    · have hne : ¬(e.1 == k) = true := by
        intro he
        have hsame : (e.1 == k') = true := BEq.trans he (BEq.symm hk)
        rw [hhead _ hmem] at hsame
        cases hsame
      simp only [firstValue?, hne]
      exact ih htail hmem

/-- With distinct keys the order of the entries does not matter. -/
theorem firstValue?_reverse
    {es : List (κ × ν)} (hd : DistinctKeys es) (k : κ) :
    firstValue? k es.reverse = firstValue? k es := by
  have hd' : DistinctKeys es.reverse := by
    refine List.pairwise_reverse.2 (hd.imp ?_)
    intro a b h
    rw [BEq.comm]
    exact h
  refine Option.ext fun x => ?_
  rw [firstValue?_eq_some_iff hd', firstValue?_eq_some_iff hd]
  simp only [List.mem_reverse]

end FirstValue

/-- What all keys have and what all values have is kept by an assignment that has them. -/
theorem forall_assign
    {κ : Type u} {ν : Type v} [BEq κ] {p : κ → Prop} {q : ν → Prop} {k : κ} {x : ν}
    {es : List (κ × ν)} (hk : p k) (hx : q x) (h : ∀ e ∈ es, p e.1 ∧ q e.2) :
    ∀ e ∈ assign k x es, p e.1 ∧ q e.2 := by
  induction es with
  | nil => exact List.forall_mem_singleton.mpr ⟨hk, hx⟩
  | cons e es ih =>
    obtain ⟨he, hes⟩ := List.forall_mem_cons.mp h
    unfold assign
    split
    · exact List.forall_mem_cons.mpr ⟨⟨he.1, hx⟩, hes⟩
    · exact List.forall_mem_cons.mpr ⟨he, ih hes⟩

/-! ## Two assignments -/

section Assign

variable {κ : Type u} {ν : Type v} [BEq κ]

theorem assign_of_not_mem
    {k : κ} {x : ν} {es : List (κ × ν)} (h : ∀ e ∈ es, (e.1 == k) = false) :
    assign k x es = es ++ [(k, x)] := by
  induction es with
  | nil => rfl
  | cons e es ih =>
    obtain ⟨he, hes⟩ := List.forall_mem_cons.mp h
    rw [assign, he, ih hes]
    rfl

theorem firstValue?_of_not_mem
    {k : κ} {es : List (κ × ν)} (h : ∀ e ∈ es, (e.1 == k) = false) : firstValue? k es = none := by
  refine Option.not_isSome_iff_eq_none.mp fun hsome => ?_
  obtain ⟨e, he, hek⟩ := isSome_firstValue?.mp hsome
  rw [h e he] at hek
  cases hek

/-- Keeping the entries of some keys keeps what is found under them. -/
theorem firstValue?_filter
    {p : κ → Bool} (hp : ∀ k k', (k == k') = true → p k = p k') (k : κ) (es : List (κ × ν)) :
    firstValue? k (es.filter fun e => p e.1) = if p k then firstValue? k es else none := by
  induction es with
  | nil => simp [firstValue?]
  | cons e es ih =>
    by_cases hek : (e.1 == k) = true
    · have hsame := hp e.1 k hek
      cases hpk : p k with
      | true => simp [firstValue?, hek, hsame, hpk]
      | false => simpa [hsame, hpk] using ih
    · cases hpe : p e.1 with
      | true => simp [firstValue?, hek, hpe, ih]
      | false => simp [firstValue?, hek, hpe, ih]

theorem forall_ne_of_firstValue?
    {k : κ} {es : List (κ × ν)} (h : firstValue? k es = none) : ∀ e ∈ es, (e.1 == k) = false := by
  intro e he
  refine Bool.eq_false_iff.mpr fun hek => ?_
  have hsome : (firstValue? k es).isSome = true := isSome_firstValue?.mpr ⟨e, he, hek⟩
  rw [h] at hsome
  cases hsome

/-- What all values are changed to does not tell assignments apart that it makes the same. -/
theorem map_assign_of_eq
    {μ : Type v} (f : ν → μ) {k : κ} {x y : ν} {es : List (κ × ν)}
    (h : firstValue? k es = some x) (hf : f y = f x) :
    (assign k y es).map (fun e => (e.1, f e.2)) = es.map fun e => (e.1, f e.2) := by
  induction es with
  | nil => cases h
  | cons e es ih =>
    unfold firstValue? at h
    unfold assign
    split at h
    · rename_i hek
      obtain rfl := Option.some.inj h
      rw [if_pos hek, List.map_cons, List.map_cons, hf]
    · rename_i hek
      rw [if_neg hek, List.map_cons, List.map_cons, ih h]

variable [PartialEquivBEq κ]

/-- Behind an entry with the key, a list with distinct keys has no other one. -/
theorem firstValue?_of_head
    {e : κ × ν} {es : List (κ × ν)} (h : ∀ f ∈ es, (e.1 == f.1) = false) {k : κ}
    (hek : (e.1 == k) = true) : firstValue? k es = none := by
  refine firstValue?_of_not_mem fun f hf => ?_
  rw [BEq.comm, ← BEq.congr_left hek]
  exact h f hf

/-- With distinct keys, a key that is dropped is gone, and no other one. -/
theorem firstValue?_dropKey
    (k k' : κ) {es : List (κ × ν)} (hd : DistinctKeys es) :
    firstValue? k' (dropKey k es) = if k == k' then none else firstValue? k' es := by
  induction es with
  | nil => simp [dropKey, firstValue?]
  | cons e es ih =>
    obtain ⟨hhead, htail⟩ := List.pairwise_cons.mp hd
    by_cases hek : (e.1 == k) = true
    · have hcongr : (e.1 == k') = (k == k') := BEq.congr_left hek
      cases hkk : k == k' with
      | false => simp [dropKey, firstValue?, hek, hcongr, hkk]
      | true =>
        have hgone : firstValue? k' es = none := firstValue?_of_head hhead (BEq.trans hek hkk)
        simp [dropKey, hek, hgone]
    · by_cases hek' : (e.1 == k') = true
      · have hkk : ¬(k == k') = true := fun hkk => hek (BEq.trans hek' (BEq.symm hkk))
        simp [dropKey, firstValue?, hek, hek', hkk]
      · simp [dropKey, firstValue?, hek, hek', ih htail]

/-- With distinct keys, what is found is made of the value that was there. -/
theorem firstValue?_filterMap
    {μ : Type v} {es : List (κ × ν)} (hd : DistinctKeys es) {f : κ → ν → Option μ}
    (hf : ∀ k k' x, (k == k') = true → f k x = f k' x) (k : κ) :
    firstValue? k (es.filterMap fun e => (f e.1 e.2).map (Prod.mk e.1)) =
      (firstValue? k es).bind (f k) := by
  induction es with
  | nil => rfl
  | cons e es ih =>
    obtain ⟨hhead, htail⟩ := List.pairwise_cons.mp hd
    rw [List.filterMap_cons]
    by_cases hek : (e.1 == k) = true
    · have hrest := firstValue?_of_head hhead hek
      rw [hf e.1 k e.2 hek]
      cases hfe : f k e.2 with
      | none => simp [ih htail, hrest, firstValue?, hek, hfe]
      | some y => simp [firstValue?, hek, hfe]
    · cases hfe : f e.1 e.2 with
      | none => simp [ih htail, firstValue?, hek]
      | some y => simp [ih htail, firstValue?, hek]

/-- Of two assignments to equal keys the second one gives the value. -/
theorem assign_assign
    {a k : κ} (h : (a == k) = true) (x y : ν) (es : List (κ × ν)) :
    assign k x (assign a y es) = assign a x es := by
  induction es with
  | nil => simp [assign, h]
  | cons e es ih =>
    have hcongr : (e.1 == a) = (e.1 == k) := BEq.congr_right h
    by_cases hea : (e.1 == a) = true
    · have hek : (e.1 == k) = true := hcongr ▸ hea
      simp [assign, hea, hek]
    · have hek : ¬(e.1 == k) = true := hcongr ▸ hea
      simp [assign, hea, hek, ih]

/-- Assignments to different keys commute if one of the keys is there. -/
theorem assign_comm
    {a k : κ} (h : (a == k) = false) (x y : ν) {es : List (κ × ν)}
    (hk : es.any (fun e => e.1 == k) = true) :
    assign k x (assign a y es) = assign a y (assign k x es) := by
  induction es with
  | nil => cases hk
  | cons e es ih =>
    by_cases hek : (e.1 == k) = true
    · have hea : ¬(e.1 == a) = true := by
        intro hea
        rw [BEq.trans (BEq.symm hea) hek] at h
        cases h
      simp [assign, hek, hea]
    · have hrest : es.any (fun e => e.1 == k) = true := by simpa [hek] using hk
      by_cases hea : (e.1 == a) = true
      · simp [assign, hek, hea]
      · simp [assign, hek, hea, ih hrest]

end Assign

/-! ## Lists without repeated members -/

section EraseDups

variable {κ : Type u} [BEq κ]

theorem eraseDups_eq_self
    {ks : List κ} (h : ks.Pairwise fun a b => (a == b) = false) [PartialEquivBEq κ] :
    ks.eraseDups = ks := by
  induction ks with
  | nil => rfl
  | cons k ks ih =>
    obtain ⟨hhead, htail⟩ := List.pairwise_cons.1 h
    have hkeep : (ks.filter fun b => !b == k) = ks := by
      refine List.filter_eq_self.2 ?_
      intro b hb
      rw [BEq.comm, hhead b hb]
      rfl
    rw [List.eraseDups_cons, hkeep, ih htail]

/-- A member that has come up before leaves no trace. -/
theorem eraseDups_append_cons_of_any
    [PartialEquivBEq κ] {k : κ} :
    ∀ {ks : List κ} (rest : List κ), ks.any (· == k) = true →
      (ks ++ k :: rest).eraseDups = (ks ++ rest).eraseDups
  | [], _, h => by simp at h
  | a :: ks, rest, h => by
    rw [List.cons_append, List.cons_append, List.eraseDups_cons, List.eraseDups_cons]
    congr 1
    rw [List.filter_append, List.filter_append]
    by_cases hak : (a == k) = true
    · have hka : (k == a) = true := BEq.symm hak
      simp [hka]
    · have hka : (k == a) = false := by
        rw [BEq.comm]
        simpa using hak
      have hany : (ks.filter fun b => !b == a).any (· == k) = true := by
        obtain ⟨b, hb, hbk⟩ := List.any_eq_true.1 h
        have hne : ¬(b == a) = true := fun hba => hak (BEq.trans (BEq.symm hba) hbk)
        rcases List.mem_cons.1 hb with rfl | hb
        · exact absurd hbk hak
        · exact List.any_eq_true.2 ⟨b, List.mem_filter.2 ⟨hb, by simpa using hne⟩, hbk⟩
      have ih := eraseDups_append_cons_of_any (rest.filter fun b => !b == a) hany
      simpa [hka] using ih
termination_by ks => ks.length
decreasing_by
  exact Nat.lt_succ_of_le (List.length_filter_le _ _)

end EraseDups

namespace Table

variable {κ : Type u} {ν : Type v} [BEq κ]

theorem keys_distinct (t : Table κ ν) :
    t.keys.Pairwise fun a b => (a == b) = false :=
  List.pairwise_map.2 t.distinct

@[simp]
theorem get?_empty (k : κ) : (empty : Table κ ν).get? k = none := rfl

@[simp]
theorem insertAll_nil (t : Table κ ν) : t.insertAll [] = t := rfl

theorem insertAll_cons
    (t : Table κ ν) (e : κ × ν) (es : List (κ × ν)) :
    t.insertAll (e :: es) = (t.insert e.1 e.2).insertAll es := rfl

/-- A key is present exactly if some entry has an equal one. -/
theorem contains_iff {t : Table κ ν} {k : κ} :
    t.contains k = true ↔ ∃ e ∈ t.entries, (e.1 == k) = true :=
  isSome_firstValue?

theorem contains_eq_any_keys (t : Table κ ν) (k : κ) :
    t.contains k = t.keys.any (· == k) := by
  rw [Bool.eq_iff_iff, contains_iff, List.any_eq_true, keys]
  simp only [List.mem_map, exists_exists_and_eq_and]

/-- Writing a key that is there keeps the keys; a new one comes last. -/
theorem keys_insert
    (t : Table κ ν) (k : κ) (x : ν) :
    (t.insert k x).keys = if t.keys.any (· == k) then t.keys else t.keys ++ [k] := by
  show (assign k x t.entries).map Prod.fst = _
  unfold keys
  generalize t.entries = es
  induction es with
  | nil => rfl
  | cons e es ih =>
    by_cases h : (e.1 == k) = true
    · simp [assign, h]
    · have hskip : assign k x (e :: es) = e :: assign k x es := if_neg h
      rw [hskip, List.map_cons, ih, List.map_cons, List.any_cons]
      simp only [h, Bool.false_or]
      split <;> rfl

theorem mapValues_eq_self
    {f : ν → ν} {t : Table κ ν} (h : ∀ e ∈ t.entries, f e.2 = e.2) : t.mapValues f = t := by
  have hentries : (t.entries.map fun e => (e.1, f e.2)) = t.entries :=
    calc (t.entries.map fun e => (e.1, f e.2))
      _ = t.entries.map id := List.map_congr_left fun e he => Prod.ext rfl (h e he)
      _ = t.entries := List.map_id _
  obtain ⟨entries, distinct⟩ := t
  unfold mapValues
  congr

theorem forall_insertAll
    {p : κ → Prop} {q : ν → Prop} {t : Table κ ν} {es : List (κ × ν)}
    (ht : ∀ e ∈ t.entries, p e.1 ∧ q e.2) (hes : ∀ e ∈ es, p e.1 ∧ q e.2) :
    ∀ e ∈ (t.insertAll es).entries, p e.1 ∧ q e.2 := by
  induction es generalizing t with
  | nil => exact ht
  | cons e es ih =>
    obtain ⟨he, hrest⟩ := List.forall_mem_cons.mp hes
    exact ih (forall_assign he.1 he.2 ht) hrest

theorem ext_entries {t u : Table κ ν} (h : t.entries = u.entries) : t = u := by
  obtain ⟨entries, distinct⟩ := t
  obtain rfl : entries = u.entries := h
  rfl

/-- A new key comes last. -/
theorem entries_insert_of_get?
    {t : Table κ ν} {k : κ} (h : t.get? k = none) (x : ν) :
    (t.insert k x).entries = t.entries ++ [(k, x)] :=
  assign_of_not_mem (forall_ne_of_firstValue? h)

/-- Dropping a key that is not there changes nothing. -/
theorem erase_of_get? {t : Table κ ν} {k : κ} (h : t.get? k = none) : t.erase k = t := by
  have hdrop {es : List (κ × ν)} (hes : ∀ e ∈ es, (e.1 == k) = false) : dropKey k es = es := by
    induction es with
    | nil => rfl
    | cons e es ih =>
      obtain ⟨he, hrest⟩ := List.forall_mem_cons.mp hes
      rw [dropKey, he, ih hrest]
      rfl
  exact ext_entries (hdrop (forall_ne_of_firstValue? h))

/-- Writes to fresh and different keys stand behind what is there. -/
theorem entries_insertAll
    {t : Table κ ν} {es : List (κ × ν)} (h : DistinctKeys (t.entries ++ es)) :
    (t.insertAll es).entries = t.entries ++ es := by
  induction es generalizing t with
  | nil => simp
  | cons e es ih =>
    have hfresh : ∀ f ∈ t.entries, (f.1 == e.1) = false := fun f hf =>
      (List.pairwise_append.mp h).2.2 f hf e List.mem_cons_self
    have hinsert : (t.insert e.1 e.2).entries = t.entries ++ [e] := assign_of_not_mem hfresh
    rw [insertAll_cons, ih, hinsert, List.append_assoc]
    · rfl
    · rw [hinsert, List.append_assoc]
      exact h

variable [PartialEquivBEq κ]

theorem get?_erase (t : Table κ ν) (k k' : κ) :
    (t.erase k).get? k' = if k == k' then none else t.get? k' :=
  firstValue?_dropKey k k' t.distinct

/-- With distinct keys, a value is found exactly if an entry has it under an equal key. -/
theorem get?_eq_some_iff {t : Table κ ν} {k : κ} {x : ν} :
    t.get? k = some x ↔ ∃ k', (k', x) ∈ t.entries ∧ (k' == k) = true :=
  firstValue?_eq_some_iff t.distinct

/-- Where equal keys are the same, finding a value is having the entry. -/
theorem mem_entries_iff {κ : Type u} [BEq κ] [LawfulBEq κ] {t : Table κ ν} {e : κ × ν} :
    e ∈ t.entries ↔ t.get? e.1 = some e.2 := by
  rw [get?_eq_some_iff]
  constructor
  · intro he
    exact ⟨e.1, he, beq_self_eq_true e.1⟩
  · rintro ⟨k, he, hk⟩
    obtain rfl : k = e.1 := eq_of_beq hk
    exact he

/-- At most one entry has a key. -/
theorem filter_entries {κ : Type u} [BEq κ] [LawfulBEq κ] (t : Table κ ν) (k : κ) :
    (t.entries.filter fun e => e.1 == k) = (t.get? k).toList.map fun x => (k, x) := by
  have hfilter {es : List (κ × ν)} (hd : DistinctKeys es) :
      (es.filter fun e => e.1 == k) = (firstValue? k es).toList.map fun x => (k, x) := by
    induction es with
    | nil => rfl
    | cons e es ih =>
      obtain ⟨hhead, htail⟩ := List.pairwise_cons.mp hd
      by_cases hek : (e.1 == k) = true
      · obtain ⟨key, x⟩ := e
        obtain rfl : key = k := eq_of_beq hek
        have hrest : (es.filter fun e => e.1 == key) = [] := by
          refine List.filter_eq_nil_iff.mpr fun f hf hfk => ?_
          rw [BEq.comm, hhead f hf] at hfk
          cases hfk
        simp [firstValue?, hrest]
      · simp [firstValue?, hek, ih htail]
  exact hfilter t.distinct

/-- Of several writes under equal keys the last one counts. -/
theorem get?_insertAll
    (t : Table κ ν) (es : List (κ × ν)) (k : κ) :
    (t.insertAll es).get? k = (firstValue? k es.reverse).or (t.get? k) := by
  induction es generalizing t with
  | nil => rfl
  | cons e es ih =>
    rw [insertAll_cons, ih, get?_insert, List.reverse_cons, firstValue?_append, Option.or_assoc]
    congr 1
    by_cases h : (e.1 == k) = true
    · simp [firstValue?, h]
    · simp [firstValue?, h]

/-- A table written over another one takes precedence. -/
theorem get?_update
    (t u : Table κ ν) (k : κ) :
    (t.update u).get? k = (u.get? k).or (t.get? k) := by
  rw [update, get?_insertAll, firstValue?_reverse u.distinct]
  rfl

/-- Keys stand where they were first written. -/
theorem keys_insertAll
    (t : Table κ ν) (es : List (κ × ν)) :
    (t.insertAll es).keys = (t.keys ++ es.map Prod.fst).eraseDups := by
  induction es generalizing t with
  | nil => simp [eraseDups_eq_self t.keys_distinct]
  | cons e es ih =>
    rw [insertAll_cons, ih, keys_insert]
    split
    · rename_i h
      exact (eraseDups_append_cons_of_any _ h).symm
    · simp

/-- A write to a key that is there already can be made before writes to other keys. -/
theorem insertAll_insert
    {t : Table κ ν} {k : κ} {x : ν} {es : List (κ × ν)} (hk : t.contains k = true)
    (hes : ∀ e ∈ es, (e.1 == k) = false) :
    (t.insertAll es).insert k x = (t.insert k x).insertAll es := by
  induction es generalizing t with
  | nil => rfl
  | cons e es ih =>
    obtain ⟨he, hrest⟩ := List.forall_mem_cons.mp hes
    have hany : t.entries.any (fun f => f.1 == k) = true := by
      obtain ⟨f, hf, hfk⟩ := contains_iff.mp hk
      exact List.any_eq_true.mpr ⟨f, hf, hfk⟩
    have hcomm : (t.insert e.1 e.2).insert k x = (t.insert k x).insert e.1 e.2 := by
      unfold insert
      congr 1
      exact assign_comm he x e.2 hany
    have hthere : (t.insert e.1 e.2).contains k = true := by
      unfold contains
      rw [get?_insert, he]
      exact hk
    rw [insertAll_cons, insertAll_cons, ih hthere hrest, hcomm]

/-- The entries of an assignment, written one after another, end with the assignment. -/
theorem insertAll_assign
    (t : Table κ ν) {k : κ} {x : ν} {es : List (κ × ν)} (hd : DistinctKeys es) :
    t.insertAll (assign k x es) = (t.insertAll es).insert k x := by
  induction es generalizing t with
  | nil => rfl
  | cons e es ih =>
    obtain ⟨hhead, htail⟩ := List.pairwise_cons.mp hd
    by_cases hek : (e.1 == k) = true
    · have hother : ∀ f ∈ es, (f.1 == k) = false := by
        intro f hf
        rw [BEq.comm, ← BEq.congr_left hek]
        exact hhead f hf
      have hthere : (t.insert e.1 e.2).contains k = true := by
        unfold contains
        rw [get?_insert, hek]
        rfl
      have htwice : (t.insert e.1 e.2).insert k x = t.insert e.1 x := by
        unfold insert
        congr 1
        exact assign_assign hek x e.2 t.entries
      simp only [assign, hek, if_true]
      rw [insertAll_cons, insertAll_cons, insertAll_insert hthere hother, htwice]
    · simp only [assign, hek]
      exact ih _ htail

/-- Writing a table over another one is writing what it held and what was written into it. -/
theorem insertAll_entries_insertAll
    (t u : Table κ ν) (es : List (κ × ν)) :
    t.insertAll (u.insertAll es).entries = (t.insertAll u.entries).insertAll es := by
  induction es generalizing u with
  | nil => rfl
  | cons e es ih =>
    rw [insertAll_cons, ih, insertAll_cons]
    congr 1
    exact insertAll_assign t u.distinct

/-- Writing a table over another one is writing what built it. -/
theorem update_ofList (t : Table κ ν) (es : List (κ × ν)) :
    t.update (ofList es) = t.insertAll es :=
  insertAll_entries_insertAll t empty es

/-- A key of a list of writes is present exactly if some write has an equal one. -/
theorem contains_ofList_iff {es : List (κ × ν)} {k : κ} :
    (ofList es).contains k = true ↔ ∃ e ∈ es, (e.1 == k) = true := by
  unfold contains ofList
  rw [get?_insertAll, get?_empty, Option.or_none, isSome_firstValue?]
  simp only [List.mem_reverse]

end Table

end LiveConfig
