import LiveConfig.Proofs.Layer.Tree

/-!
# What a lookup finds

A lookup walks a tree until a layer holds the key.  Where everything can be enumerated this is the
first entry with an equal key: a listed key cannot be reported as absent, since it was read when its
layer was enumerated.

**Results.**
* `Layer.findIn?_eq_firstValue?`: what is found is the value of the first entry.
* `Layer.findIn?_ok`: something or nothing is found where no layer fails to answer for the key.
-/

namespace LiveConfig

namespace Layer

/-- Whether a layer answers for a key, be it that it does not hold it. -/
def answers (key : Value) : Layer → Bool
  | mapping _ entries faults => (readKey entries faults key).isOk
  | lookup _ entries faults => (readKey entries faults key).isOk
  | composite _ _ _ => true

variable {key : Value}

/-- A mapping that can be enumerated reports none of its keys as absent. -/
theorem firstValue?_eq_of_readKey
    {name : Text} {entries : Entries} {faults : ReadFaults} {found : Option Value}
    (h : (mapping name entries faults).isEnumerable = true)
    (hread : readKey entries faults key = .ok found) :
    firstValue? key entries.entries = found := by
  have hlisted : ∀ e ∈ entries.entries, faults.failure? e.1 = none := by
    have hnone : (mapping name entries faults).obstacle? = none :=
      Option.isNone_iff_eq_none.mp ((Bool.and_eq_true _ _).mp h).2
    rw [obstacle?] at hnone
    split at hnone
    · cases hnone
    · exact List.findSome?_eq_none_iff.mp hnone
  unfold readKey at hread
  cases hcheck : checkKey key with
  | error failure =>
    rw [hcheck] at hread
    cases hread
  | ok _ =>
    rw [hcheck] at hread
    cases hfailure : faults.failure? key with
    | none =>
      simp only [hfailure, bind, Except.bind] at hread
      exact Except.ok.inj hread
    | some failure =>
      have hnot : firstValue? key entries.entries = none := by
        refine Option.eq_none_iff_forall_ne_some.mpr fun v hv => ?_
        obtain ⟨k, hmem, hk⟩ := exists_mem_of_firstValue? hv
        have hsame : faults.failure? k = faults.failure? key := firstValue?_congr hk _
        rw [hlisted _ hmem, hfailure] at hsame
        cases hsame
      simp only [hfailure, bind, Except.bind] at hread
      split at hread
      · exact hnot.trans (Except.ok.inj hread)
      · cases hread

mutual

/-- What a lookup in one tree finds is the first entry. -/
theorem find?_eq_firstValue? :
    ∀ {layer : Layer} {found : Option Value}, layer.everywhere isEnumerable = true →
      layer.find? key = .ok found →
      firstValue? key (layer.tables.flatMap Table.entries) = found
  | mapping name entries faults, found, h, hfind => by
    rw [tables, List.flatMap_singleton]
    exact firstValue?_eq_of_readKey h hfind
  | lookup _ _ _, _, h, _ => nomatch h
  | composite name children none, found, h, hfind =>
    findIn?_eq_firstValue? (everywhere_composite_iff.mp h).2 hfind
  | composite _ _ (some _), _, h, _ => nomatch (everywhere_composite_iff.mp h).1

/-- What a lookup finds is the value of the first entry with an equal key. -/
theorem findIn?_eq_firstValue? :
    ∀ {layers : List Layer} {found : Option Value}, everywhereIn isEnumerable layers = true →
      findIn? key layers = .ok found → firstValue? key (entriesIn layers) = found
  | [], found, _, hfind => Except.ok.inj hfind
  | child :: rest, found, h, hfind => by
    obtain ⟨hchild, hrest⟩ := (Bool.and_eq_true _ _).mp h
    rw [entriesIn_cons, firstValue?_append]
    unfold findIn? at hfind
    split at hfind
    · rename_i hnone
      rw [find?_eq_firstValue? hchild hnone, Option.none_or]
      exact findIn?_eq_firstValue? hrest hfind
    · rename_i other hother
      rw [find?_eq_firstValue? hchild hfind]
      cases found with
      | none => exact absurd hfind hother
      | some v => rfl

end

mutual

theorem find?_ok :
    ∀ {layer : Layer}, layer.everywhere isEnumerable = true →
      layer.everywhere (answers key) = true → ∃ found, layer.find? key = .ok found
  | mapping _ entries faults, _, ha => by
    rw [everywhere, answers] at ha
    rw [find?]
    cases hread : readKey entries faults key with
    | error failure =>
      rw [hread] at ha
      cases ha
    | ok found => exact ⟨found, rfl⟩
  | lookup _ _ _, h, _ => nomatch h
  | composite _ _ none, h, ha =>
    findIn?_ok (everywhere_composite_iff.mp h).2 (everywhere_composite_iff.mp ha).2
  | composite _ _ (some _), h, _ => nomatch (everywhere_composite_iff.mp h).1

/-- A lookup comes to an end where all layers answer. -/
theorem findIn?_ok :
    ∀ {layers : List Layer}, everywhereIn isEnumerable layers = true →
      everywhereIn (answers key) layers = true → ∃ found, findIn? key layers = .ok found
  | [], _, _ => ⟨none, rfl⟩
  | child :: rest, h, ha => by
    obtain ⟨hchild, hrest⟩ := (Bool.and_eq_true _ _).mp h
    obtain ⟨hachild, harest⟩ := (Bool.and_eq_true _ _).mp ha
    obtain ⟨found, hfound⟩ := find?_ok hchild hachild
    unfold findIn?
    rw [hfound]
    cases found with
    | none => exact findIn?_ok hrest harest
    | some v => exact ⟨some v, rfl⟩

end

end Layer

end LiveConfig
