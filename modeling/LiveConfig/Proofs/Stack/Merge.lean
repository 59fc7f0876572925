import LiveConfig.Proofs.Stack.Basic
import LiveConfig.Stack.Merge
import Mathlib.Data.List.Sublists

/-!
# Merging layer by layer

A merge takes incoming layers one after another and edits the list that it measures against.  One
step is described here once and for all by a function on lists (`place`); it cannot fail as long
as the name that was matched last is live (`Merging.Anchored`).

Everything that holds after every processed layer is collected in `Kept` and carried through a run
by induction on the layers processed so far.

**Results.**
* `Merging.step_ok`: what one step does, and that it does not fail.
* `Merging.exists_run`: what every step keeps holds after every part of a run.
* `merge_keeps_live`: a merge never fails and never drops, doubles or reorders a live layer, at any point
  of the run, and reports every incoming layer once.
-/

namespace LiveConfig

namespace Traced

variable {α β : Type} {x : Traced α} {f : α → Traced β}

/-- After a success the rest decides the outcome. -/
theorem outcome_bind_of_ok
    {a : α} (h : x.outcome = .ok a) :
    (x >>= f).outcome = (f a).outcome := by
  obtain ⟨outcome, log⟩ := x
  cases h
  rfl

/-- A success has come through both parts. -/
theorem exists_of_bind_ok
    {b : β} (h : (x >>= f).outcome = .ok b) :
    ∃ a, x.outcome = .ok a ∧ (f a).outcome = .ok b := by
  obtain ⟨outcome, log⟩ := x
  cases outcome with
  | error e => cases h
  | ok a => exact ⟨a, rfl, h⟩

end Traced

/-! ## Tests that see what stands before -/

/-- The members of a list that pass a test which also sees the members before them. -/
def filterByPast {α : Type} (p : List α → α → Bool) (xs : List α) : List α :=
  (xs.zipIdx.filter fun e => p (xs.take e.2) e.1).map Prod.fst

@[simp]
theorem filterByPast_nil
    {α : Type} (p : List α → α → Bool) :
    filterByPast p [] = [] := rfl

/-- The last member is tested against all others, which do not see it. -/
theorem filterByPast_concat
    {α : Type} (p : List α → α → Bool) (xs : List α) (x : α) :
    filterByPast p (xs ++ [x]) = filterByPast p xs ++ if p xs x then [x] else [] := by
  have hold :
      (xs.zipIdx.filter fun e => p ((xs ++ [x]).take e.2) e.1) =
        xs.zipIdx.filter fun e => p (xs.take e.2) e.1 := by
    refine List.filter_congr ?_
    intro e he
    have hlt : e.2 < xs.length := by
      have := List.mem_zipIdx he
      omega
    rw [List.take_append_of_le_length (Nat.le_of_lt hlt)]
  unfold filterByPast
  rw [List.zipIdx_append, List.filter_append, hold, List.map_append]
  cases hp : p xs x <;> simp [hp]

/-! ## What a merge reports -/

/-- What becomes of an incoming layer. -/
inductive Fate
  | skipped
  | replaced
  | added
  deriving DecidableEq

namespace MergeRules

/--
What becomes of an incoming name: a standard one is skipped, the first one that was not live is
added, and all others replace.
-/
def fate (rules : MergeRules) (live earlier : List Text) (name : Text) : Fate :=
  if rules.standard.contains name then .skipped
  else if live.contains name || earlier.contains name then .replaced
  else .added

/-- The incoming names that meet a fate, in order. -/
def namesOf (rules : MergeRules) (live incoming : List Text) (f : Fate) : List Text :=
  filterByPast (fun earlier name => rules.fate live earlier name == f) incoming

/-- The report of a merge of incoming names. -/
def reportOf (rules : MergeRules) (live incoming : List Text) : MergeReport :=
  ⟨rules.namesOf live incoming .replaced, rules.namesOf live incoming .added,
    rules.namesOf live incoming .skipped⟩

end MergeRules

namespace MergeReport

/-- Notes the fate of a name. -/
def noteFate (r : MergeReport) (name : Text) : Fate → MergeReport
  | .skipped => r.noteSkipped name
  | .replaced => r.noteReplaced name
  | .added => r.noteAdded name

end MergeReport

theorem MergeRules.reportOf_concat
    (rules : MergeRules) (live incoming : List Text) (name : Text) :
    rules.reportOf live (incoming ++ [name]) =
      (rules.reportOf live incoming).noteFate name (rules.fate live incoming name) := by
  unfold reportOf namesOf
  simp only [filterByPast_concat]
  cases rules.fate live incoming name <;>
    simp [MergeReport.noteFate, MergeReport.noteSkipped, MergeReport.noteReplaced,
      MergeReport.noteAdded]

/-! ## One step -/

/-- Where an incoming layer goes among the live ones, given the name that was matched last. -/
def place (rules : MergeRules) (matched : Option Text) (layers : List Layer) (layer : Layer) :
    List Layer :=
  if rules.standard.contains layer.name then layers
  else if layer.name ∈ layers.map Layer.name then Layer.substitute layer.name layer layers
  else
    match matched with
    | some anchor => Layer.insertAfter anchor layer layers
    | none =>
      if rules.anchor ∈ layers.map Layer.name then Layer.insertBefore rules.anchor layer layers
      else layers ++ [layer]

namespace Merging

/-- The name that was matched last is live. -/
def Anchored (m : Merging) : Prop :=
  ∀ name, m.matched = some name → name ∈ m.live.names

/-- The name that is matched last once a layer has been taken. -/
def matchedBy (m : Merging) (layer : Layer) : Option Text :=
  if layer.name ∈ m.live.names then some layer.name else m.matched

/-- What becomes of an incoming layer under a merge that is under way. -/
def fate (rules : MergeRules) (m : Merging) (layer : Layer) : Fate :=
  rules.fate m.live.names [] layer.name

/-- A step from an anchored merge succeeds; this is all that it does. -/
theorem step_ok
    (rules : MergeRules) {m : Merging} (h : m.Anchored) (layer : Layer) :
    ∃ m', (m.step rules layer).outcome = .ok m' ∧
      m'.live.layers = place rules m.matched m.live.layers layer ∧
      m'.matched = m.matchedBy layer ∧
      m'.report = m.report.noteFate layer.name (fate rules m layer) := by
  cases hstd : rules.standard.contains layer.name with
  | true =>
    have hfate : fate rules m layer = .skipped := by
      simp only [fate, MergeRules.fate, hstd, if_true]
    simp only [step, place, matchedBy, hfate, hstd, if_true, LayerStack.contains_iff]
    exact ⟨_, rfl, rfl, rfl, rfl⟩
  | false =>
    by_cases hlive : layer.name ∈ m.live.names
    · have hcont := LayerStack.contains_iff.mpr hlive
      have hfate : fate rules m layer = .replaced := by
        simp only [fate, MergeRules.fate, hstd, List.contains_iff_mem.mpr hlive, Bool.true_or,
          Bool.false_eq_true, if_false, if_true]
      obtain ⟨t, old, ht, hlayers⟩ := LayerStack.replace_ok hlive
      simp only [step, place, matchedBy, hfate, hstd, hcont, ht, hlive, if_true,
        Bool.false_eq_true, if_false]
      exact ⟨_, rfl, hlayers.trans (if_pos hlive).symm, rfl, rfl⟩
    · have hcont := LayerStack.contains_eq_false_iff.mpr hlive
      have hplace : layer.name ∉ m.live.layers.map Layer.name := hlive
      have hfate : fate rules m layer = .added := by
        simp only [fate, MergeRules.fate, hstd, List.contains_iff_mem, hlive, Bool.or_eq_true,
          List.not_mem_nil, or_self, Bool.false_eq_true, if_false]
      simp only [step, place, matchedBy, hfate, hstd, hcont, hlive, hplace, Bool.false_eq_true,
        if_false]
      cases hmatched : m.matched with
      | some anchor =>
        obtain ⟨t, ht, hlayers⟩ := LayerStack.addAfter_ok (h anchor hmatched) hlive
        simp only [ht]
        exact ⟨_, rfl, hlayers, rfl, rfl⟩
      | none =>
        by_cases hanchor : rules.anchor ∈ m.live.names
        · obtain ⟨t, ht, hlayers⟩ := LayerStack.addBefore_ok hanchor hlive
          simp only [LayerStack.contains_iff.mpr hanchor, ht, if_true]
          exact ⟨_, rfl, hlayers.trans (if_pos hanchor).symm, rfl, rfl⟩
        · obtain ⟨t, ht, hlayers⟩ := LayerStack.addLast_ok hlive
          simp only [LayerStack.contains_eq_false_iff.mpr hanchor, ht, Bool.false_eq_true,
            if_false]
          exact ⟨_, rfl, hlayers.trans (if_neg hanchor).symm, rfl, rfl⟩

end Merging

/-! ## What a step does to the list -/

section Place

variable {rules : MergeRules} {matched : Option Text} {s : LayerStack} {layer : Layer}

theorem place_standard
    {layers : List Layer} (hstd : rules.standard.contains layer.name = true) :
    place rules matched layers layer = layers :=
  if_pos hstd

section NotStandard

variable {layers : List Layer} (hstd : rules.standard.contains layer.name = false)
include hstd

theorem place_live
    (hlive : layer.name ∈ layers.map Layer.name) :
    place rules matched layers layer = Layer.substitute layer.name layer layers := by
  unfold place
  simp only [hstd, Bool.false_eq_true, if_false, if_pos hlive]

variable (hnew : layer.name ∉ layers.map Layer.name)
include hnew

theorem place_after (anchor : Text) :
    place rules (some anchor) layers layer = Layer.insertAfter anchor layer layers := by
  unfold place
  simp only [hstd, Bool.false_eq_true, if_false, if_neg hnew]

theorem place_before
    (hanchor : rules.anchor ∈ layers.map Layer.name) :
    place rules none layers layer = Layer.insertBefore rules.anchor layer layers := by
  unfold place
  simp only [hstd, Bool.false_eq_true, if_false, if_neg hnew, if_pos hanchor]

theorem place_last
    (hanchor : rules.anchor ∉ layers.map Layer.name) :
    place rules none layers layer = layers ++ [layer] := by
  unfold place
  simp only [hstd, Bool.false_eq_true, if_false, if_neg hnew, if_neg hanchor]

end NotStandard

/--
A layer that is not standard takes the place of its namesake or stands at a new place; nothing
else moves.
-/
theorem exists_place_split
    (hstd : rules.standard.contains layer.name = false)
    (hanchored : ∀ name, matched = some name → name ∈ s.names) :
    ∃ before after, place rules matched s.layers layer = before ++ layer :: after ∧
      (layer.name ∉ s.names ∧ s.layers = before ++ after ∨
        ∃ a, s.layers = before ++ a :: after ∧ Layer.SplitsAt layer.name before a after) := by
  by_cases hlive : layer.name ∈ s.names
  · obtain ⟨before, a, after, hsplit, hcut, -⟩ := s.exists_split hlive
    rw [place_live hstd hlive, hsplit, Layer.substitute_split hcut]
    exact ⟨before, after, rfl, Or.inr ⟨a, rfl, hcut⟩⟩
  · cases matched with
    | some anchor =>
      obtain ⟨before, a, after, hsplit, hcut, -⟩ := s.exists_split (hanchored anchor rfl)
      refine ⟨before ++ [a], after, ?_, Or.inl ⟨hlive, ?_⟩⟩
      · rw [place_after hstd hlive, hsplit]
        simpa using Layer.insertAfter_split hcut
      · simpa using hsplit
    | none =>
      by_cases hanchor : rules.anchor ∈ s.names
      · obtain ⟨before, a, after, hsplit, hcut, -⟩ := s.exists_split hanchor
        refine ⟨before, a :: after, ?_, Or.inl ⟨hlive, hsplit⟩⟩
        rw [place_before hstd hlive hanchor, hsplit, Layer.insertBefore_split hcut]
      · refine ⟨s.layers, [], ?_, Or.inl ⟨hlive, by simp⟩⟩
        rw [place_last hstd hlive hanchor]

/-- The layer itself is there afterwards, and of the others all but its namesake. -/
theorem mem_place
    (hstd : rules.standard.contains layer.name = false)
    (hanchored : ∀ name, matched = some name → name ∈ s.names) {l : Layer} :
    l ∈ place rules matched s.layers layer ↔
      l = layer ∨ l ∈ s.layers ∧ l.name ≠ layer.name := by
  obtain ⟨before, after, hplace, ⟨hnew, hs⟩ | ⟨a, hs, hcut⟩⟩ :=
    exists_place_split hstd hanchored
  · have hne : ∀ l' ∈ s.layers, l'.name ≠ layer.name := fun l' hl' heq =>
      hnew (LayerStack.mem_names_iff.mpr ⟨l', hl', heq⟩)
    have hmem : l ∈ s.layers ↔ l ∈ before ∨ l ∈ after := by rw [hs, List.mem_append]
    rw [hplace, List.mem_append, List.mem_cons, and_iff_left_of_imp (hne l), hmem]
    exact or_left_comm
  · have hmem : l ∈ s.layers ∧ l.name ≠ layer.name ↔ l ∈ before ∨ l ∈ after := by
      rw [hs, List.mem_append, List.mem_cons]
      constructor
      · rintro ⟨hb | rfl | haft, hname⟩
        · exact Or.inl hb
        · exact absurd hcut.name_eq hname
        · exact Or.inr haft
      · rintro (hb | haft)
        · exact ⟨Or.inl hb, hcut.before_ne l hb⟩
        · exact ⟨Or.inr (Or.inr haft), hcut.after_ne l haft⟩
    rw [hplace, List.mem_append, List.mem_cons, hmem]
    exact or_left_comm

/-- The layer is found under its name, unless that is standard; all else is found as before. -/
theorem get?_of_layers_eq_place
    {t : LayerStack}
    (hanchored : ∀ name, matched = some name → name ∈ s.names)
    (ht : t.layers = place rules matched s.layers layer) (name : Text) :
    t.get? name =
      if rules.standard.contains layer.name = false ∧ layer.name = name then some layer
      else s.get? name := by
  cases hstd : rules.standard.contains layer.name with
  | true =>
    rw [place_standard hstd] at ht
    simpa using LayerStack.get?_congr ht name
  | false =>
    refine Option.ext fun l => ?_
    rw [LayerStack.get?_eq_some_iff, ht, mem_place hstd hanchored]
    by_cases hname : layer.name = name
    · rw [if_pos ⟨rfl, hname⟩]
      constructor
      · rintro ⟨rfl | ⟨-, hne⟩, hl⟩
        · rfl
        · exact absurd (hl.trans hname.symm) hne
      · rintro ⟨⟩
        exact ⟨Or.inl rfl, hname⟩
    · rw [if_neg fun h => hname h.2, LayerStack.get?_eq_some_iff]
      constructor
      · rintro ⟨rfl | ⟨hl, -⟩, hlname⟩
        · exact absurd hlname hname
        · exact ⟨hl, hlname⟩
      · rintro ⟨hl, rfl⟩
        exact ⟨Or.inr ⟨hl, fun heq => hname heq.symm⟩, rfl⟩

/-- No name is lost and no two change places. -/
theorem names_sublist_place
    (rules : MergeRules) (layer : Layer)
    (hanchored : ∀ name, matched = some name → name ∈ s.names) :
    s.names.Sublist ((place rules matched s.layers layer).map Layer.name) := by
  cases hstd : rules.standard.contains layer.name with
  | true =>
    rw [place_standard hstd]
    exact List.Sublist.refl _
  | false =>
    obtain ⟨before, after, hplace, ⟨-, hs⟩ | ⟨a, hs, hcut⟩⟩ :=
      exists_place_split hstd hanchored
    · rw [LayerStack.names, hplace, hs]
      exact ((List.sublist_cons_self layer after).append_left before).map Layer.name
    · rw [LayerStack.names, hplace, hs, List.map_append, List.map_append, List.map_cons,
        List.map_cons, hcut.name_eq]

end Place

namespace Merging.Anchored

variable {rules : MergeRules} {m m' : Merging} {layer : Layer}

theorem names_sublist
    (h : m.Anchored) (hlayers : m'.live.layers = place rules m.matched m.live.layers layer) :
    m.live.names.Sublist m'.live.names := by
  have hsub := names_sublist_place rules layer h
  rwa [← hlayers] at hsub

/-- The name that is matched last is still live after a step. -/
theorem of_step
    (h : m.Anchored) (hlayers : m'.live.layers = place rules m.matched m.live.layers layer)
    (hmatched : m'.matched = m.matchedBy layer) : m'.Anchored := by
  have hsub := h.names_sublist hlayers
  intro name hname
  rw [hmatched, matchedBy] at hname
  split at hname
  · rename_i hlive
    cases hname
    exact hsub.subset hlive
  · exact hsub.subset (h name hname)

end Merging.Anchored

/-! ## What a run keeps -/

/-- The last of some layers that has a name. -/
def latest? (name : Text) (layers : List Layer) : Option Layer :=
  layers.reverse.find? fun l => l.name == name

theorem latest?_concat
    (name : Text) (layers : List Layer) (layer : Layer) :
    latest? name (layers ++ [layer]) =
      if layer.name = name then some layer else latest? name layers := by
  unfold latest?
  rw [List.reverse_concat, List.find?_cons]
  by_cases h : layer.name = name
  · simp [h]
  · rw [if_neg h, beq_eq_false_iff_ne.mpr h]

theorem isSome_latest?
    {name : Text} {layers : List Layer} :
    (latest? name layers).isSome = true ↔ name ∈ layers.map Layer.name := by
  simp [latest?, List.find?_isSome]

/--
What a merge has kept after some incoming layers: the live names in their order, every standard
layer as it was, and for all other names the latest incoming layer or else the live one.
-/
structure Kept (rules : MergeRules) (live : LayerStack) (processed : List Layer) (m : Merging) :
    Prop where
  anchored : m.Anchored
  sublist : live.names.Sublist m.live.names
  standard : ∀ name, rules.standard.contains name = true → m.live.get? name = live.get? name
  others : ∀ name, rules.standard.contains name = false →
    m.live.get? name = (latest? name processed).or (live.get? name)
  report_eq : m.report = rules.reportOf live.names (processed.map Layer.name)

namespace Kept

variable {rules : MergeRules} {live : LayerStack} {processed : List Layer} {m : Merging}

theorem start (rules : MergeRules) (live : LayerStack) :
    Kept rules live [] (Merging.start live) where
  anchored := fun _ h => nomatch h
  sublist := List.Sublist.refl _
  standard := fun _ _ => rfl
  others := fun _ _ => rfl
  report_eq := rfl

/-- The live names and the incoming ones that are not standard are there. -/
theorem mem_names_iff
    (h : Kept rules live processed m) {name : Text} :
    name ∈ m.live.names ↔
      name ∈ live.names ∨
        name ∈ processed.map Layer.name ∧ rules.standard.contains name = false := by
  have hsome (s : LayerStack) : name ∈ s.names ↔ (s.get? name).isSome = true := by
    rw [Option.isSome_iff_ne_none, ne_eq, LayerStack.get?_eq_none_iff, not_not]
  rw [hsome, hsome]
  cases hstd : rules.standard.contains name with
  | true => simp [h.standard name hstd]
  | false =>
    rw [h.others name hstd, Option.isSome_or, Bool.or_eq_true, isSome_latest?]
    tauto

/-- Every layer was live or has come in. -/
theorem mem_or_mem
    (h : Kept rules live processed m) {layer : Layer} (hlayer : layer ∈ m.live.layers) :
    layer ∈ live.layers ∨ layer ∈ processed := by
  have hget : m.live.get? layer.name = some layer := LayerStack.get?_eq_some_iff.mpr ⟨hlayer, rfl⟩
  have hlive (hold : live.get? layer.name = some layer) : layer ∈ live.layers :=
    (LayerStack.get?_eq_some_iff.mp hold).1
  cases hstd : rules.standard.contains layer.name with
  | true =>
    rw [h.standard _ hstd] at hget
    exact Or.inl (hlive hget)
  | false =>
    rw [h.others _ hstd] at hget
    rcases Option.or_eq_some_iff.mp hget with hlatest | ⟨-, hold⟩
    · exact Or.inr (List.mem_reverse.mp (List.mem_of_find?_eq_some hlatest))
    · exact Or.inl (hlive hold)

/-- The names seen so far decide the fate of the next layer. -/
theorem fate_eq
    (h : Kept rules live processed m) (layer : Layer) :
    Merging.fate rules m layer =
      rules.fate live.names (processed.map Layer.name) layer.name := by
  unfold Merging.fate MergeRules.fate
  cases hstd : rules.standard.contains layer.name with
  | true => rfl
  | false =>
    have hmem :
        (m.live.names.contains layer.name || [].contains layer.name) =
          (live.names.contains layer.name ||
            (processed.map Layer.name).contains layer.name) := by
      rw [Bool.eq_iff_iff]
      simp only [Bool.or_eq_true, List.contains_iff_mem, List.not_mem_nil, or_false,
        h.mem_names_iff, hstd, and_true]
    rw [hmem]

/-- A step keeps what was kept. -/
theorem step
    (h : Kept rules live processed m) (layer : Layer) :
    ∃ m', (m.step rules layer).outcome = .ok m' ∧
      Kept rules live (processed ++ [layer]) m' := by
  obtain ⟨m', hok, hlayers, hmatched, hreport⟩ := Merging.step_ok rules h.anchored layer
  have hsub : m.live.names.Sublist m'.live.names := h.anchored.names_sublist hlayers
  refine ⟨m', hok, h.anchored.of_step hlayers hmatched, h.sublist.trans hsub, ?_, ?_, ?_⟩
  · intro name hname
    rw [get?_of_layers_eq_place h.anchored hlayers, if_neg]
    · exact h.standard name hname
    · rintro ⟨hfalse, rfl⟩
      rw [hname] at hfalse
      cases hfalse
  · intro name hname
    rw [get?_of_layers_eq_place h.anchored hlayers, latest?_concat]
    by_cases heq : layer.name = name
    · rw [if_pos ⟨heq ▸ hname, heq⟩, if_pos heq, Option.some_or]
    · rw [if_neg fun hand => heq hand.2, if_neg heq]
      exact h.others name hname
  · rw [hreport, h.report_eq, h.fate_eq, List.map_append]
    exact (rules.reportOf_concat _ _ _).symm

end Kept

/-! ## Runs -/

namespace Merging

variable {rules : MergeRules}

theorem outcome_steps_append
    {m m' : Merging} {processed : List Layer} (rest : List Layer)
    (h : (m.steps rules processed).outcome = .ok m') :
    (m.steps rules (processed ++ rest)).outcome = (m'.steps rules rest).outcome := by
  induction processed generalizing m with
  | nil =>
    cases h
    rfl
  | cons layer processed ih =>
    obtain ⟨m₁, hm₁, hrest⟩ := Traced.exists_of_bind_ok h
    exact (Traced.outcome_bind_of_ok hm₁).trans (ih hrest)

/-- What holds at the start and is kept by every step of a run holds after every part of it. -/
theorem exists_run
    {P : List Layer → Merging → Prop} {start : Merging} {incoming : List Layer}
    (hstart : P [] start)
    (hstep : ∀ processed layer rest m, incoming = processed ++ layer :: rest → P processed m →
      ∃ m', (m.step rules layer).outcome = .ok m' ∧ P (processed ++ [layer]) m')
    (processed rest : List Layer) (hsplit : incoming = processed ++ rest) :
    ∃ m, (start.steps rules processed).outcome = .ok m ∧ P processed m := by
  -- a step adds to the end of what has been processed, so the induction goes from the end
  induction processed using List.reverseRecOn generalizing rest with
  | nil => exact ⟨start, rfl, hstart⟩
  | append_singleton processed layer ih =>
    rw [List.append_assoc] at hsplit
    obtain ⟨m, hm, hP⟩ := ih _ hsplit
    obtain ⟨m', hm', hP'⟩ := hstep processed layer rest m hsplit hP
    refine ⟨m', ?_, hP'⟩
    rw [outcome_steps_append _ hm]
    exact Traced.outcome_bind_of_ok hm'

end Merging

/-- After every part of a merge all is kept, and the rest of the merge goes on from there. -/
theorem exists_kept
    (rules : MergeRules) (live : LayerStack) (processed : List Layer) :
    ∃ m, ((Merging.start live).steps rules processed).outcome = .ok m ∧
      Kept rules live processed m :=
  Merging.exists_run (Kept.start rules live) (fun _ layer _ _ _ h => h.step layer) processed []
    (List.append_nil _).symm

theorem outcome_merge
    {rules : MergeRules} {live : LayerStack} {incoming : List Layer} {m : Merging}
    (h : ((Merging.start live).steps rules incoming).outcome = .ok m) :
    (merge rules live incoming).outcome = .ok (m.live, m.report) :=
  Traced.outcome_bind_of_ok h

/-- A merge always ends with layers that were live or have come in. -/
theorem exists_merged
    (rules : MergeRules) (live : LayerStack) (incoming : List Layer) :
    ∃ merged report,
      (merge rules live incoming).outcome = .ok (merged, report) ∧
      ∀ layer ∈ merged.layers, layer ∈ live.layers ∨ layer ∈ incoming := by
  obtain ⟨m, hm, hkept⟩ := exists_kept rules live incoming
  exact ⟨m.live, m.report, outcome_merge hm, fun _ => hkept.mem_or_mem⟩

/--
**A merge never fails and keeps what is live.**  After every processed incoming layer, from where
the rest of the merge goes on: no name is there twice, the live names stand in their order, a
standard name has its live layer or none, and any other name has the latest incoming layer or else
its live one.  In the end the names are the live ones and those incoming that are not standard, and
every incoming layer is reported once, in order, under its fate.
-/
theorem merge_keeps_live
    (rules : MergeRules) (live : LayerStack) (incoming : List Layer) :
    (∀ processed rest, incoming = processed ++ rest →
      ∃ m, ((Merging.start live).steps rules processed).outcome = .ok m ∧
        ((Merging.start live).steps rules incoming).outcome = (m.steps rules rest).outcome ∧
        m.live.names.Nodup ∧
        live.names.Sublist m.live.names ∧
        (∀ name, rules.standard.contains name = true → m.live.get? name = live.get? name) ∧
        ∀ name, rules.standard.contains name = false →
          m.live.get? name = (latest? name processed).or (live.get? name)) ∧
    ∃ merged report,
      (merge rules live incoming).outcome = .ok (merged, report) ∧
      (∀ name, name ∈ merged.names ↔
        name ∈ live.names ∨
          name ∈ incoming.map Layer.name ∧ rules.standard.contains name = false) ∧
      report = rules.reportOf live.names (incoming.map Layer.name) := by
  constructor
  · rintro processed rest rfl
    obtain ⟨m, hm, hkept⟩ := exists_kept rules live processed
    exact ⟨m, hm, Merging.outcome_steps_append rest hm, m.live.names_nodup, hkept.sublist,
      hkept.standard, hkept.others⟩
  · obtain ⟨m, hm, hkept⟩ := exists_kept rules live incoming
    exact ⟨m.live, m.report, outcome_merge hm, fun _ => hkept.mem_names_iff, hkept.report_eq⟩

/-- An empty layer with a name of one letter. -/
def oneLetter (c : Char) : Layer :=
  .ofEntries ⟨[.char c]⟩ Table.empty

/-- A new name comes twice, one is live, and one is standard. -/
theorem merge_keeps_live_oneLetter :
    ∃ live : LayerStack, live.layers = ['x', 's', 'd'].map oneLetter ∧
      ∃ merged report,
        (merge ⟨[⟨[.char 's']⟩], ⟨[.char 'd']⟩⟩ live
          (['a', 'x', 'a', 's'].map oneLetter)).outcome = .ok (merged, report) ∧
        merged.names.contains ⟨[.char 'a']⟩ = true ∧
        report = ⟨[⟨[.char 'x']⟩, ⟨[.char 'a']⟩], [⟨[.char 'a']⟩], [⟨[.char 's']⟩]⟩ := by
  have hdistinct : ((['x', 's', 'd'].map oneLetter).map Layer.name).Nodup := by decide
  obtain ⟨live, -, hlive⟩ := LayerStack.exists_ofList hdistinct
  obtain ⟨-, merged, report, hok, hnames, hreport⟩ :=
    merge_keeps_live ⟨[⟨[.char 's']⟩], ⟨[.char 'd']⟩⟩ live (['a', 'x', 'a', 's'].map oneLetter)
  refine ⟨live, hlive, merged, report, hok, ?_, ?_⟩
  · rw [List.contains_iff_mem, hnames]
    exact Or.inr (by decide)
  · rw [hreport, LayerStack.names, hlive]
    rfl

end LiveConfig
