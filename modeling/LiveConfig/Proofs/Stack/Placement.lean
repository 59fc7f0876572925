import LiveConfig.Proofs.Stack.Merge

/-!
# Where a merge puts new layers

A layer is new if its name is neither live nor standard.  It is anchored to the nearest earlier
incoming layer that is live, or to nothing.  These two notions alone, which only look at the lists
from before the merge, give the final list (`placement`).

The list that a merge edits is the placement of what has been processed so far.  One lemma shows
that a step leads from one placement to the next (`place_placement`).  It goes through the places
where a step can put a layer.

**Result.**
* `merge_placement`: a merge of layers with distinct names ends with the placement.
-/

namespace LiveConfig

theorem exists_of_mem_filterByPast
    {α : Type} {p : List α → α → Bool} {xs : List α} {x : α}
    (h : x ∈ filterByPast p xs) :
    ∃ past, p past x = true := by
  obtain ⟨e, he, rfl⟩ := List.mem_map.mp h
  exact ⟨_, (List.mem_filter.mp he).2⟩

/-- The last of distinct names is not among those before it. -/
theorem fresh_of_nodup
    {layers : List Layer} {layer : Layer}
    (hnodup : ((layers ++ [layer]).map Layer.name).Nodup) :
    layer.name ∉ layers.map Layer.name := by
  rw [List.map_append, List.nodup_append] at hnodup
  exact fun h => hnodup.2.2 layer.name h layer.name List.mem_cons_self rfl

/-! ## The final list -/

/-- The layer is neither live nor standard. -/
def isNew (rules : MergeRules) (live : List Layer) (layer : Layer) : Bool :=
  !rules.standard.contains layer.name && !(live.map Layer.name).contains layer.name

/-- The name of the nearest of the earlier layers that is live. -/
def nearestLive? (live earlier : List Layer) : Option Text :=
  (earlier.map Layer.name).reverse.find? (live.map Layer.name).contains

/-- The new layers with an anchor, or those without one, in incoming order. -/
def newAt (rules : MergeRules) (live incoming : List Layer) (anchor : Option Text) :
    List Layer :=
  filterByPast
    (fun earlier layer => isNew rules live layer && nearestLive? live earlier == anchor) incoming

/-- A live layer, or the incoming one that replaces it. -/
def current (rules : MergeRules) (incoming : List Layer) (l : Layer) : Layer :=
  if rules.standard.contains l.name then l
  else (latest? l.name incoming).getD l

/-- The new layers right before a live one. -/
def above (rules : MergeRules) (live incoming : List Layer) (l : Layer) : List Layer :=
  if l.name = rules.anchor then newAt rules live incoming none else []

/-- The new layers right after a live one. -/
def below (rules : MergeRules) (live incoming : List Layer) (l : Layer) : List Layer :=
  (newAt rules live incoming (some l.name)).reverse

/-- What stands where a live layer stood. -/
def around (rules : MergeRules) (live incoming : List Layer) (l : Layer) : List Layer :=
  above rules live incoming l ++ current rules incoming l :: below rules live incoming l

/-- Moves the layer of a name behind all others. -/
def moveLast (name : Text) (layers : List Layer) : List Layer :=
  layers.filter (fun l => l.name != name) ++ layers.filter (fun l => l.name == name)

/-- What stands behind everything that was live. -/
def trailing (rules : MergeRules) (live incoming : List Layer) : List Layer :=
  if rules.anchor ∈ live.map Layer.name then []
  else moveLast rules.anchor (newAt rules live incoming none)

/-- Where everything stands after a merge. -/
def placement (rules : MergeRules) (live incoming : List Layer) : List Layer :=
  live.flatMap (around rules live incoming) ++ trailing rules live incoming

/-! ## Moving a layer to the end -/

section MoveLast

variable {name : Text} {layers before after : List Layer} {a : Layer}

theorem mem_moveLast {l : Layer} : l ∈ moveLast name layers ↔ l ∈ layers := by
  unfold moveLast
  rw [List.mem_append, List.mem_filter, List.mem_filter]
  by_cases h : l.name = name <;> simp [h]

theorem moveLast_of_not_mem
    (h : name ∉ layers.map Layer.name) : moveLast name layers = layers := by
  have hne : ∀ l ∈ layers, l.name ≠ name := fun l hl heq => h (heq ▸ List.mem_map_of_mem hl)
  unfold moveLast
  rw [List.filter_eq_self.mpr fun l hl => bne_iff_ne.mpr (hne l hl),
    List.filter_eq_nil_iff.mpr fun l hl => by simpa using hne l hl, List.append_nil]

theorem moveLast_split
    (h : Layer.SplitsAt name before a after) :
    moveLast name (before ++ a :: after) = before ++ after ++ [a] := by
  have hb : (before.filter fun l => l.name == name) = [] :=
    List.filter_eq_nil_iff.mpr fun l hl => by simpa using h.before_ne l hl
  have ha : (after.filter fun l => l.name == name) = [] :=
    List.filter_eq_nil_iff.mpr fun l hl => by simpa using h.after_ne l hl
  unfold moveLast
  rw [Layer.filter_ne_split h, List.filter_append, List.filter_cons, hb, ha]
  simp [h.name_eq]

theorem moveLast_concat_of_not_mem
    (h : name ∉ layers.map Layer.name) (layer : Layer) :
    moveLast name (layers ++ [layer]) = layers ++ [layer] := by
  by_cases heq : layer.name = name
  · have hcut : Layer.SplitsAt name layers layer [] := by
      refine ⟨heq, fun l hl hl' => ?_, fun l hl => nomatch hl⟩
      exact h (hl' ▸ List.mem_map_of_mem hl)
    rw [moveLast_split hcut, List.append_nil]
  · refine moveLast_of_not_mem fun hmem => ?_
    rw [List.map_append, List.mem_append] at hmem
    rcases hmem with hmem | hmem
    · exact h hmem
    · exact heq (List.mem_singleton.mp hmem).symm

/-- One more layer goes right before the one that was moved, or last if there is none. -/
theorem append_moveLast_concat
    {front : List Layer} {layer : Layer}
    (hfront : name ∉ front.map Layer.name)
    (hnodup : ((layers ++ [layer]).map Layer.name).Nodup) :
    front ++ moveLast name (layers ++ [layer]) =
      if name ∈ (front ++ moveLast name layers).map Layer.name then
        Layer.insertBefore name layer (front ++ moveLast name layers)
      else front ++ moveLast name layers ++ [layer] := by
  have hmem : name ∈ (front ++ moveLast name layers).map Layer.name ↔
      name ∈ layers.map Layer.name := by
    rw [List.map_append, List.mem_append, or_iff_right hfront]
    simp only [List.mem_map, mem_moveLast]
  by_cases hname : name ∈ layers.map Layer.name
  · obtain ⟨before, a, after, rfl, hcut⟩ :=
      Layer.exists_splitsAt (hnodup.sublist ((List.sublist_append_left _ _).map Layer.name)) hname
    have hne : layer.name ≠ name := fun heq => fresh_of_nodup hnodup (heq ▸ hname)
    -- the moved layer stays last, so right before it is behind all others
    have hcut' : Layer.SplitsAt name before a (after ++ [layer]) := by
      refine ⟨hcut.name_eq, hcut.before_ne, fun l hl => ?_⟩
      rcases List.mem_append.mp hl with hl | hl
      · exact hcut.after_ne l hl
      · exact List.mem_singleton.mp hl ▸ hne
    have hlast : Layer.SplitsAt name (front ++ (before ++ after)) a [] := by
      refine ⟨hcut.name_eq, fun l hl heq => ?_, fun l hl => nomatch hl⟩
      rcases List.mem_append.mp hl with hl | hl
      · exact hfront (heq ▸ List.mem_map_of_mem hl)
      · rcases List.mem_append.mp hl with hl | hl
        · exact hcut.before_ne l hl heq
        · exact hcut.after_ne l hl heq
    have hmoved := moveLast_split hcut'
    rw [← List.cons_append, ← List.append_assoc] at hmoved
    rw [if_pos (hmem.mpr hname), hmoved, moveLast_split hcut,
      ← List.append_assoc front (before ++ after), Layer.insertBefore_split hlast]
    simp
  · rw [if_neg (hmem.not.mpr hname), moveLast_of_not_mem hname,
      moveLast_concat_of_not_mem hname, List.append_assoc]

end MoveLast

/-! ## The parts of the final list -/

section Parts

variable {rules : MergeRules} {live done : List Layer} {layer l : Layer} {anchor : Option Text}

theorem isNew_iff :
    isNew rules live layer = true ↔
      rules.standard.contains layer.name = false ∧ layer.name ∉ live.map Layer.name := by
  simp [isNew]

/-- A name found as nearest is live. -/
theorem mem_of_nearestLive?
    {name : Text} (h : nearestLive? live done = some name) :
    name ∈ live.map Layer.name :=
  List.contains_iff_mem.mp (List.find?_some h)

theorem nearestLive?_concat :
    nearestLive? live (done ++ [layer]) =
      if layer.name ∈ live.map Layer.name then some layer.name else nearestLive? live done := by
  unfold nearestLive?
  rw [List.map_append, List.map_singleton, List.reverse_concat, List.find?_cons]
  by_cases h : layer.name ∈ live.map Layer.name
  · rw [if_pos h, List.contains_iff_mem.mpr h]
  · have hfalse : (live.map Layer.name).contains layer.name = false := by
      simpa using h
    rw [if_neg h, hfalse]

theorem newAt_concat :
    newAt rules live (done ++ [layer]) anchor =
      newAt rules live done anchor ++
        if isNew rules live layer && nearestLive? live done == anchor then [layer] else [] :=
  filterByPast_concat _ _ _

theorem newAt_of_not_new
    (h : isNew rules live layer = false) (anchor : Option Text) :
    newAt rules live (done ++ [layer]) anchor = newAt rules live done anchor := by
  rw [newAt_concat, h, Bool.false_and, if_neg Bool.false_ne_true, List.append_nil]

theorem newAt_of_new
    (done : List Layer) (h : isNew rules live layer = true) (anchor : Option Text) :
    newAt rules live (done ++ [layer]) anchor =
      if nearestLive? live done = anchor then newAt rules live done anchor ++ [layer]
      else newAt rules live done anchor := by
  rw [newAt_concat, h, Bool.true_and]
  by_cases heq : nearestLive? live done = anchor <;> simp [heq]

theorem not_live_of_mem_newAt
    (h : l ∈ newAt rules live done anchor) : l.name ∉ live.map Layer.name := by
  obtain ⟨past, hpast⟩ := exists_of_mem_filterByPast h
  rw [Bool.and_eq_true] at hpast
  exact (isNew_iff.mp hpast.1).2

/-- As long as no incoming layer is live, all new layers lack an anchor. -/
theorem newAt_of_nearestLive?_none
    (h : nearestLive? live done = none) :
    newAt rules live done anchor =
      if anchor = none then done.filter (isNew rules live) else [] := by
  induction done using List.reverseRecOn with
  | nil => simp [newAt]
  | append_singleton done layer ih =>
    rw [nearestLive?_concat] at h
    split at h
    · cases h
    · rw [newAt_concat, ih h, h, List.filter_append]
      cases anchor <;> cases hnew : isNew rules live layer <;> simp [hnew]

theorem name_current : (current rules done l).name = l.name := by
  unfold current
  split
  · rfl
  · cases hlast : latest? l.name done with
    | none => rfl
    | some l' => simpa using List.find?_some hlast

theorem current_concat :
    current rules (done ++ [layer]) l =
      if rules.standard.contains layer.name = false ∧ l.name = layer.name then layer
      else current rules done l := by
  unfold current
  rw [latest?_concat]
  by_cases heq : l.name = layer.name
  · rw [heq, if_pos rfl]
    cases rules.standard.contains layer.name <;> simp
  · simp only [heq, Ne.symm heq, and_false, if_false]

end Parts

/-! ## Edits at a live name -/

section Edits

variable {rules : MergeRules} {live done : List Layer} {name : Text} {layer : Layer}
variable (hname : name ∈ live.map Layer.name)
include hname

theorem ne_of_mem_newAt
    {anchor : Option Text} {l : Layer} (h : l ∈ newAt rules live done anchor) :
    l.name ≠ name :=
  fun heq => not_live_of_mem_newAt h (heq ▸ hname)

variable (rules done) in
theorem ne_of_mem_above (l : Layer) : ∀ l' ∈ above rules live done l, l'.name ≠ name := by
  intro l' hl'
  unfold above at hl'
  split at hl'
  · exact ne_of_mem_newAt hname hl'
  · cases hl'

variable (rules done) in
theorem ne_of_mem_below (l : Layer) : ∀ l' ∈ below rules live done l, l'.name ≠ name :=
  fun _ hl' => ne_of_mem_newAt hname (List.mem_reverse.mp hl')

variable (rules done) in
theorem ne_of_mem_trailing : ∀ l ∈ trailing rules live done, l.name ≠ name := by
  intro l hl
  unfold trailing at hl
  split at hl
  · cases hl
  · exact ne_of_mem_newAt hname (mem_moveLast.mp hl)

/-- An edit at a live name reaches that live layer only. -/
theorem expand_around (f : Layer → List Layer) (l : Layer) :
    Layer.expand name f (around rules live done l) =
      above rules live done l ++
        ((if l.name = name then f (current rules done l) else [current rules done l]) ++
          below rules live done l) := by
  rw [around, Layer.expand_append, Layer.expand_cons, name_current,
    Layer.expand_of_ne (ne_of_mem_above rules done hname l),
    Layer.expand_of_ne (ne_of_mem_below rules done hname l)]

/-- A placement that differs by an edit around every live layer is the edited one. -/
theorem placement_eq_expand
    {next : List Layer} {f : Layer → List Layer}
    (haround : ∀ l ∈ live,
      around rules live next l = Layer.expand name f (around rules live done l))
    (htrailing : trailing rules live next = trailing rules live done) :
    placement rules live next = Layer.expand name f (placement rules live done) := by
  rw [placement, placement, Layer.expand_append,
    Layer.expand_of_ne (ne_of_mem_trailing rules done hname), List.flatMap_congr haround, htrailing]
  exact congrArg (· ++ _) List.flatMap_assoc.symm

end Edits

/-! ## From one placement to the next -/

section Step

variable {rules : MergeRules} {live done : List Layer} {layer : Layer}

/-- A standard layer is left out. -/
theorem placement_standard
    (hstd : rules.standard.contains layer.name = true) :
    placement rules live (done ++ [layer]) = placement rules live done := by
  have hnew : isNew rules live layer = false := by
    simp only [isNew, hstd, Bool.not_true, Bool.false_and]
  have hsame (anchor : Option Text) :
      newAt rules live (done ++ [layer]) anchor = newAt rules live done anchor :=
    newAt_of_not_new hnew anchor
  have haround (l : Layer) :
      around rules live (done ++ [layer]) l = around rules live done l := by
    have hcurrent : current rules (done ++ [layer]) l = current rules done l := by
      rw [current_concat, hstd]
      exact if_neg fun h => Bool.noConfusion h.1
    simp only [around, above, below, hsame, hcurrent]
  unfold placement trailing
  rw [funext haround, hsame]

theorem current_of_new
    (hnew : layer.name ∉ live.map Layer.name) {l : Layer} (hl : l ∈ live) :
    current rules (done ++ [layer]) l = current rules done l := by
  rw [current_concat, if_neg]
  rintro ⟨-, heq⟩
  exact hnew (heq ▸ List.mem_map_of_mem hl)

/--
Without an anchor and without a live default one, the new layers follow the live ones, and one
named as the default anchor stands behind them.
-/
theorem placement_of_unanchored
    (hnear : nearestLive? live done = none) (hanchor : rules.anchor ∉ live.map Layer.name) :
    placement rules live done =
      live.map (current rules done) ++ moveLast rules.anchor (done.filter (isNew rules live)) := by
  have haround (l : Layer) (hl : l ∈ live) :
      around rules live done l = [current rules done l] := by
    have hne : l.name ≠ rules.anchor := fun heq => hanchor (heq ▸ List.mem_map_of_mem hl)
    rw [around, above, below, if_neg hne, newAt_of_nearestLive?_none hnear,
      if_neg (Option.some_ne_none l.name)]
    rfl
  rw [placement, List.flatMap_congr haround, trailing, if_neg hanchor,
    newAt_of_nearestLive?_none hnear, if_pos rfl, List.map_eq_flatMap]

variable (hstd : rules.standard.contains layer.name = false)
include hstd

/-- A layer that is live takes the place of its namesake and moves nothing. -/
theorem placement_live
    (hlive : layer.name ∈ live.map Layer.name) :
    placement rules live (done ++ [layer]) =
      Layer.substitute layer.name layer (placement rules live done) := by
  have hnew : isNew rules live layer = false := by
    simp [isNew, hlive]
  have hsame (anchor : Option Text) :
      newAt rules live (done ++ [layer]) anchor = newAt rules live done anchor :=
    newAt_of_not_new hnew anchor
  refine placement_eq_expand hlive (fun l _ => ?_) (by rw [trailing, trailing, hsame])
  rw [expand_around hlive]
  simp only [around, above, below, hsame, current_concat, hstd, true_and]
  by_cases heq : l.name = layer.name
  · simp [heq]
  · simp [heq]

variable (hnew : layer.name ∉ live.map Layer.name)
include hnew

/-- A new layer with an anchor goes right after it. -/
theorem placement_after
    {anchor : Text} (hnear : nearestLive? live done = some anchor) :
    placement rules live (done ++ [layer]) =
      Layer.insertAfter anchor layer (placement rules live done) := by
  have hanchor := mem_of_nearestLive? hnear
  have hnewAt := newAt_of_new done (isNew_iff.mpr ⟨hstd, hnew⟩)
  have hunanchored : newAt rules live (done ++ [layer]) none = newAt rules live done none := by
    rw [hnewAt, hnear, if_neg (Option.some_ne_none anchor)]
  refine placement_eq_expand hanchor (fun l hl => ?_) (by rw [trailing, trailing, hunanchored])
  rw [expand_around hanchor]
  simp only [around, above, below, hunanchored, current_of_new hnew hl]
  rw [hnewAt, hnear]
  by_cases heq : l.name = anchor
  · simp [heq]
  · simp [heq, Ne.symm heq]

/-- A new layer without an anchor goes right before the default one. -/
theorem placement_before
    (hnear : nearestLive? live done = none) (hanchor : rules.anchor ∈ live.map Layer.name) :
    placement rules live (done ++ [layer]) =
      Layer.insertBefore rules.anchor layer (placement rules live done) := by
  have hnewAt := newAt_of_new done (isNew_iff.mpr ⟨hstd, hnew⟩)
  have hanchored (name : Text) :
      newAt rules live (done ++ [layer]) (some name) = newAt rules live done (some name) := by
    rw [hnewAt, hnear, if_neg (Option.some_ne_none name).symm]
  refine placement_eq_expand hanchor (fun l hl => ?_)
    (by rw [trailing, trailing, if_pos hanchor, if_pos hanchor])
  rw [expand_around hanchor]
  simp only [around, above, below, hanchored, current_of_new hnew hl]
  rw [hnewAt, hnear]
  by_cases heq : l.name = rules.anchor
  · simp [heq]
  · simp [heq]

/-- A new layer goes last then, or right before one named as the default anchor. -/
theorem placement_last
    (hnear : nearestLive? live done = none) (hanchor : rules.anchor ∉ live.map Layer.name)
    (hnodup : ((done ++ [layer]).map Layer.name).Nodup) :
    placement rules live (done ++ [layer]) =
      if rules.anchor ∈ (placement rules live done).map Layer.name then
        Layer.insertBefore rules.anchor layer (placement rules live done)
      else placement rules live done ++ [layer] := by
  have hnear' : nearestLive? live (done ++ [layer]) = none := by
    rw [nearestLive?_concat, if_neg hnew, hnear]
  have hfront : live.map (current rules (done ++ [layer])) = live.map (current rules done) :=
    List.map_congr_left fun l hl => current_of_new hnew hl
  have hnames : (live.map (current rules done)).map Layer.name = live.map Layer.name := by
    rw [List.map_map]
    exact List.map_congr_left fun l _ => name_current
  have hfresh : (done ++ [layer]).filter (isNew rules live) =
      done.filter (isNew rules live) ++ [layer] := by
    rw [List.filter_append, List.filter_singleton, isNew_iff.mpr ⟨hstd, hnew⟩]
    rfl
  have hsub : (done.filter (isNew rules live) ++ [layer]).Sublist (done ++ [layer]) :=
    hfresh ▸ List.filter_sublist
  rw [placement_of_unanchored hnear hanchor, placement_of_unanchored hnear' hanchor, hfront,
    hfresh]
  exact append_moveLast_concat (hnames ▸ hanchor) (hnodup.sublist (hsub.map Layer.name))

end Step

/-- A step puts a layer where the next placement has it. -/
theorem place_placement
    {rules : MergeRules} {live done : List Layer} {layer : Layer}
    (hnodup : ((done ++ [layer]).map Layer.name).Nodup)
    (hnames : ∀ {name}, name ∈ (placement rules live done).map Layer.name ↔
      name ∈ live.map Layer.name ∨
        name ∈ done.map Layer.name ∧ rules.standard.contains name = false) :
    place rules (nearestLive? live done) (placement rules live done) layer =
      placement rules live (done ++ [layer]) := by
  cases hstd : rules.standard.contains layer.name with
  | true => rw [place_standard hstd, placement_standard hstd]
  | false =>
    by_cases hlive : layer.name ∈ live.map Layer.name
    · rw [place_live hstd (hnames.mpr (Or.inl hlive)), placement_live hstd hlive]
    · have hnew : layer.name ∉ (placement rules live done).map Layer.name := by
        rw [hnames]
        rintro (h | ⟨h, -⟩)
        · exact hlive h
        · exact fresh_of_nodup hnodup h
      cases hnear : nearestLive? live done with
      | some anchor =>
        rw [place_after hstd hnew, placement_after hstd hlive hnear]
      | none =>
        by_cases hanchor : rules.anchor ∈ live.map Layer.name
        · rw [place_before hstd hnew (hnames.mpr (Or.inl hanchor)),
            placement_before hstd hlive hnear hanchor]
        · rw [placement_last hstd hlive hnear hanchor hnodup]
          split
          · rename_i hmem
            exact place_before hstd hnew hmem
          · rename_i hmem
            exact place_last hstd hnew hmem

/-! ## Runs -/

/-- What a merge of distinct names has placed after some incoming layers. -/
structure Placed (rules : MergeRules) (live : LayerStack) (processed : List Layer)
    (m : Merging) : Prop where
  kept : Kept rules live processed m
  matched_eq : m.matched = nearestLive? live.layers processed
  layers_eq : m.live.layers = placement rules live.layers processed

namespace Placed

variable {rules : MergeRules} {live : LayerStack} {processed : List Layer} {m : Merging}

theorem start (rules : MergeRules) (live : LayerStack) :
    Placed rules live [] (Merging.start live) where
  kept := Kept.start rules live
  matched_eq := rfl
  layers_eq := by
    have haround (l : Layer) : around rules live.layers [] l = [l] := by
      simp [around, above, below, newAt, current, latest?]
    have htrailing : trailing rules live.layers [] = [] := by
      simp [trailing, newAt, moveLast]
    rw [placement, funext haround, htrailing, List.flatMap_singleton', List.append_nil]
    rfl

theorem step
    (h : Placed rules live processed m) {layer : Layer}
    (hnodup : ((processed ++ [layer]).map Layer.name).Nodup) :
    ∃ m', (m.step rules layer).outcome = .ok m' ∧
      Placed rules live (processed ++ [layer]) m' := by
  obtain ⟨m', hok, hkept⟩ := h.kept.step layer
  obtain ⟨m'', hok', hlayers, hmatched, -⟩ := Merging.step_ok rules h.kept.anchored layer
  obtain rfl : m'' = m' := Except.ok.inj (hok'.symm.trans hok)
  refine ⟨m'', hok, hkept, ?_, ?_⟩
  · have hlive : layer.name ∈ m.live.names ↔ layer.name ∈ live.layers.map Layer.name := by
      rw [h.kept.mem_names_iff, or_iff_left fun hmem => fresh_of_nodup hnodup hmem.1]
      rfl
    rw [hmatched, Merging.matchedBy, nearestLive?_concat, h.matched_eq]
    exact if_congr hlive rfl rfl
  · rw [hlayers, h.matched_eq, h.layers_eq]
    refine place_placement hnodup ?_
    intro name
    rw [← h.layers_eq]
    exact h.kept.mem_names_iff

end Placed

/-- A merge of distinct names comes to an end with everything placed. -/
theorem exists_placed
    (rules : MergeRules) (live : LayerStack) {incoming : List Layer}
    (hnodup : (incoming.map Layer.name).Nodup) :
    ∃ m, (merge rules live incoming).outcome = .ok (m.live, m.report) ∧
      Placed rules live incoming m := by
  have hinitial {processed rest : List Layer} {layer : Layer}
      (hsplit : incoming = processed ++ layer :: rest) :
      ((processed ++ [layer]).map Layer.name).Nodup := by
    refine hnodup.sublist (List.Sublist.map Layer.name ?_)
    rw [hsplit]
    exact (List.cons_sublist_cons.mpr (List.nil_sublist rest)).append_left processed
  obtain ⟨m, hm, hplaced⟩ :=
    Merging.exists_run (Placed.start rules live)
      (fun _ _ _ _ hsplit h => h.step (hinitial hsplit)) incoming [] (List.append_nil _).symm
  exact ⟨m, outcome_merge hm, hplaced⟩

/--
**A merge of distinct names puts every layer at its place.**  The place only depends on the live
and the incoming layers.
-/
theorem merge_placement
    (rules : MergeRules) (live : LayerStack) (incoming : List Layer)
    (hnodup : (incoming.map Layer.name).Nodup) :
    ∃ merged report,
      (merge rules live incoming).outcome = .ok (merged, report) ∧
      merged.layers = placement rules live.layers incoming := by
  obtain ⟨m, hm, hplaced⟩ := exists_placed rules live hnodup
  exact ⟨m.live, m.report, hm, hplaced.layers_eq⟩

/-- New layers without an anchor, after a live layer, and after a standard one. -/
theorem merge_placement_oneLetter :
    ∃ live : LayerStack, live.layers = ['x', 's', 'd'].map oneLetter ∧
      ((['a', 'x', 'b', 'c', 's', 'e'].map oneLetter).map Layer.name).Nodup ∧
      ∃ merged report,
        (merge ⟨[⟨[.char 's']⟩], ⟨[.char 'd']⟩⟩ live
          (['a', 'x', 'b', 'c', 's', 'e'].map oneLetter)).outcome = .ok (merged, report) ∧
        merged.layers = ['x', 'c', 'b', 's', 'e', 'a', 'd'].map oneLetter := by
  have hdistinct : ((['x', 's', 'd'].map oneLetter).map Layer.name).Nodup := by decide
  obtain ⟨live, -, hlive⟩ := LayerStack.exists_ofList hdistinct
  have hnodup : ((['a', 'x', 'b', 'c', 's', 'e'].map oneLetter).map Layer.name).Nodup := by
    decide
  obtain ⟨merged, report, hok, hlayers⟩ :=
    merge_placement ⟨[⟨[.char 's']⟩], ⟨[.char 'd']⟩⟩ live _ hnodup
  refine ⟨live, hlive, hnodup, merged, report, hok, ?_⟩
  rw [hlayers, hlive]
  rfl

end LiveConfig
