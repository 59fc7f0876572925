import LiveConfig.Proofs.Stack.Placement

/-!
# Merging the same layers again

After a merge every incoming name that is not standard is live.  A second merge of the same layers
therefore finds nothing to add: each layer takes the place that it, or a later one of its name,
already has.

**Results.**
* `exists_merged_of_live`: a merge of layers that are all live replaces and skips, and nothing else.
* `exists_merged_again`: the second merge changes no layer, and reports every layer as replaced or
  skipped.
* `layers_merge_eq_iff`: when a merge changes nothing.
-/

namespace LiveConfig

namespace LayerStack

variable {s t : LayerStack}

theorem map_some_layers (s : LayerStack) : s.layers.map some = s.names.map s.get? := by
  rw [names, List.map_map]
  refine List.map_congr_left ?_
  intro layer hlayer
  exact (get?_eq_some_iff.mpr ⟨hlayer, rfl⟩).symm

/-- Distinct names that all stand, in their order, among some distinct ones without more. -/
theorem names_eq_of_sublist
    (hsub : s.names.Sublist t.names) (hmem : ∀ name, name ∈ t.names → name ∈ s.names) :
    s.names = t.names := by
  have hperm : s.names.Perm t.names := by
    rw [List.perm_ext_iff_of_nodup s.names_nodup t.names_nodup]
    exact fun name => ⟨fun h => hsub.subset h, hmem name⟩
  exact hsub.eq_of_length hperm.length_eq

/-- Names and look-ups decide the list. -/
theorem layers_eq_of_get?
    (hnames : s.names = t.names) (h : ∀ name ∈ s.names, s.get? name = t.get? name) :
    s.layers = t.layers := by
  have hsome : s.layers.map some = t.layers.map some := by
    rw [map_some_layers, map_some_layers, ← hnames]
    exact List.map_congr_left h
  exact List.map_injective_iff.mpr (fun _ _ => Option.some.inj) hsome

end LayerStack

/-- A test that does not depend on what stands before leaves what a filter leaves. -/
theorem filterByPast_eq_filter
    {α : Type} {p : List α → α → Bool} {q : α → Bool} {xs : List α}
    (h : ∀ x ∈ xs, ∀ past, p past x = q x) :
    filterByPast p xs = xs.filter q := by
  induction xs using List.reverseRecOn with
  | nil => rfl
  | append_singleton xs x ih =>
    have hlast : p xs x = q x := h x (by simp) xs
    have hinit : filterByPast p xs = xs.filter q :=
      ih fun y hy => h y (List.mem_append_left _ hy)
    rw [filterByPast_concat, hinit, hlast, List.filter_append]
    cases hq : q x <;> simp [hq]

namespace MergeRules

variable {rules : MergeRules} {live : List Text}

theorem fate_of_mem
    (earlier : List Text) {name : Text} (h : rules.standard.contains name = false → name ∈ live) :
    rules.fate live earlier name =
      if rules.standard.contains name then .skipped else .replaced := by
  unfold fate
  cases hstd : rules.standard.contains name with
  | true => rfl
  | false =>
    have hlive : live.contains name = true := List.contains_iff_mem.mpr (h hstd)
    rw [hlive]
    rfl

/-- If all that is not standard is live, every standard name is skipped and all others replace. -/
theorem reportOf_of_mem
    {incoming : List Text}
    (h : ∀ name ∈ incoming, rules.standard.contains name = false → name ∈ live) :
    rules.reportOf live incoming =
      ⟨incoming.filter fun name => !rules.standard.contains name, [],
        incoming.filter fun name => rules.standard.contains name⟩ := by
  have hnames (f : Fate) :
      rules.namesOf live incoming f =
        incoming.filter fun name =>
          (if rules.standard.contains name then Fate.skipped else Fate.replaced) == f := by
    refine filterByPast_eq_filter ?_
    intro name hname earlier
    rw [fate_of_mem earlier (h name hname)]
  have hreplaced : rules.namesOf live incoming .replaced =
      incoming.filter fun name => !rules.standard.contains name := by
    rw [hnames]
    refine List.filter_congr fun name _ => ?_
    cases rules.standard.contains name <;> rfl
  have hskipped : rules.namesOf live incoming .skipped =
      incoming.filter fun name => rules.standard.contains name := by
    rw [hnames]
    refine List.filter_congr fun name _ => ?_
    cases rules.standard.contains name <;> rfl
  have hadded : rules.namesOf live incoming .added = [] := by
    rw [hnames, List.filter_eq_nil_iff]
    intro name _
    cases rules.standard.contains name <;> decide
  rw [reportOf, hreplaced, hskipped, hadded]

end MergeRules

/-- Among distinct names every layer is the last of its name. -/
theorem latest?_eq_some
    {layers : List Layer} {l : Layer}
    (hdistinct : (layers.map Layer.name).Nodup) (hl : l ∈ layers) :
    latest? l.name layers = some l := by
  have hsome : (latest? l.name layers).isSome = true :=
    isSome_latest?.mpr (List.mem_map_of_mem hl)
  obtain ⟨x, hx⟩ := Option.isSome_iff_exists.mp hsome
  have hmem : x ∈ layers := List.mem_reverse.mp (List.mem_of_find?_eq_some hx)
  have hname : x.name = l.name := by simpa using List.find?_some hx
  rw [hx, List.inj_on_of_nodup_map hdistinct hmem hl hname]

/-- A layer of distinct incoming names replaces whatever has its name, unless that is standard. -/
theorem current_eq
    {rules : MergeRules} {incoming : List Layer} {l old : Layer}
    (hdistinct : (incoming.map Layer.name).Nodup) (hl : l ∈ incoming) (hname : old.name = l.name) :
    current rules incoming old = if rules.standard.contains l.name then old else l := by
  unfold current
  rw [hname, latest?_eq_some hdistinct hl]
  rfl

/--
Where every incoming name that is not standard is live, a merge adds nothing: every live layer stays
or makes room for the latest incoming one of its name.
-/
theorem exists_merged_of_live
    {rules : MergeRules} {live : LayerStack} {incoming : List Layer}
    (h : ∀ name ∈ incoming.map Layer.name,
      rules.standard.contains name = false → name ∈ live.names) :
    ∃ merged,
      (merge rules live incoming).outcome =
        .ok (merged,
          ⟨(incoming.map Layer.name).filter fun name => !rules.standard.contains name, [],
            (incoming.map Layer.name).filter fun name => rules.standard.contains name⟩) ∧
      merged.layers = live.layers.map (current rules incoming) := by
  obtain ⟨m, hm, hkept⟩ := exists_kept rules live incoming
  have hnames : live.names = m.live.names := by
    refine LayerStack.names_eq_of_sublist hkept.sublist ?_
    intro name hname
    rcases hkept.mem_names_iff.mp hname with hold | ⟨hin, hstd⟩
    · exact hold
    · exact h name hin hstd
  have hget : ∀ l ∈ live.layers, m.live.get? l.name = some (current rules incoming l) := by
    intro l hl
    have hlive : live.get? l.name = some l := LayerStack.get?_eq_some_iff.mpr ⟨hl, rfl⟩
    unfold current
    cases hstd : rules.standard.contains l.name with
    | true => rw [hkept.standard _ hstd, hlive, if_pos rfl]
    | false =>
      rw [hkept.others _ hstd, hlive, if_neg Bool.false_ne_true]
      cases latest? l.name incoming <;> rfl
  refine ⟨m.live, ?_, ?_⟩
  · rw [outcome_merge hm, hkept.report_eq, MergeRules.reportOf_of_mem h]
  · have hsome : m.live.layers.map some = (live.layers.map (current rules incoming)).map some := by
      rw [LayerStack.map_some_layers, ← hnames, LayerStack.names, List.map_map, List.map_map]
      exact List.map_congr_left hget
    exact List.map_injective_iff.mpr (fun _ _ => Option.some.inj) hsome

/-- A layer that comes in alone takes the place of the only live layer, if that has its name. -/
theorem layers_merge_single
    {rules : MergeRules} {live merged : LayerStack} {old new : Layer} {report : MergeReport}
    (hmerge : (merge rules live [new]).outcome = .ok (merged, report))
    (hlive : live.layers = [old]) (hname : old.name = new.name)
    (hstd : rules.standard.contains new.name = false) :
    merged.layers = [new] := by
  have hnames : ∀ name ∈ [new].map Layer.name,
      rules.standard.contains name = false → name ∈ live.names := by
    intro name hmem _
    rw [LayerStack.names, hlive, List.map_singleton, hname]
    exact hmem
  obtain ⟨merged', hmerge', hlayers⟩ := exists_merged_of_live hnames
  obtain ⟨rfl, -⟩ := Prod.mk.inj (Except.ok.inj (hmerge.symm.trans hmerge'))
  have hdistinct : ([new].map Layer.name).Nodup := List.nodup_singleton new.name
  rw [hlayers, hlive, List.map_singleton, current_eq hdistinct List.mem_cons_self hname, hstd]
  rfl

/--
A second merge of the same layers succeeds and leaves every layer where it is; it adds nothing,
skips the standard layers, and replaces by all others.
-/
theorem exists_merged_again
    {rules : MergeRules} {live merged : LayerStack} {incoming : List Layer} {report : MergeReport}
    (h : (merge rules live incoming).outcome = .ok (merged, report)) :
    ∃ again,
      (merge rules merged incoming).outcome =
        .ok (again,
          ⟨(incoming.map Layer.name).filter fun name => !rules.standard.contains name, [],
            (incoming.map Layer.name).filter fun name => rules.standard.contains name⟩) ∧
      again.layers = merged.layers := by
  obtain ⟨m, hm, hkept⟩ := exists_kept rules live incoming
  obtain ⟨rfl, -⟩ := Prod.mk.inj (Except.ok.inj ((outcome_merge hm).symm.trans h))
  obtain ⟨again, hagain, hlayers⟩ := exists_merged_of_live fun name hname hstd =>
    hkept.mem_names_iff.mpr (Or.inr ⟨hname, hstd⟩)
  refine ⟨again, hagain, hlayers.trans ((List.map_congr_left (g := id) ?_).trans (List.map_id _))⟩
  intro l hl
  unfold current
  cases hstd : rules.standard.contains l.name with
  | true => rfl
  | false =>
    -- the latest incoming layer of the name is there since the first merge
    have hget := hkept.others l.name hstd
    rw [LayerStack.get?_eq_some_iff.mpr ⟨hl, rfl⟩] at hget
    cases hlatest : latest? l.name incoming with
    | none => rfl
    | some x =>
      rw [hlatest] at hget
      exact (Option.some.inj hget).symm

/--
A merge leaves all layers as they are if and only if every incoming name that is not standard is
live with the latest incoming layer of that name.
-/
theorem layers_merge_eq_iff
    {rules : MergeRules} {live merged : LayerStack} {incoming : List Layer} {report : MergeReport}
    (h : (merge rules live incoming).outcome = .ok (merged, report)) :
    merged.layers = live.layers ↔
      ∀ name layer, rules.standard.contains name = false → latest? name incoming = some layer →
        live.get? name = some layer := by
  obtain ⟨m, hm, hkept⟩ := exists_kept rules live incoming
  obtain ⟨rfl, -⟩ := Prod.mk.inj (Except.ok.inj ((outcome_merge hm).symm.trans h))
  constructor
  · intro hsame name layer hstd hlatest
    have hget := hkept.others name hstd
    rw [hlatest, LayerStack.get?_congr hsame name] at hget
    exact hget
  · intro hlive
    have hnames : live.names = m.live.names := by
      refine LayerStack.names_eq_of_sublist hkept.sublist fun name hname => ?_
      rcases hkept.mem_names_iff.mp hname with hold | ⟨hin, hstd⟩
      · exact hold
      · obtain ⟨layer, hlatest⟩ := Option.isSome_iff_exists.mp (isSome_latest?.mpr hin)
        obtain ⟨hmem, hname⟩ := LayerStack.get?_eq_some_iff.mp (hlive name layer hstd hlatest)
        exact LayerStack.mem_names_iff.mpr ⟨layer, hmem, hname⟩
    refine LayerStack.layers_eq_of_get? hnames.symm fun name _ => ?_
    cases hstd : rules.standard.contains name with
    | true => exact hkept.standard name hstd
    | false =>
      rw [hkept.others name hstd]
      cases hlatest : latest? name incoming with
      | none => rfl
      | some layer => exact (hlive name layer hstd hlatest).symm

end LiveConfig
