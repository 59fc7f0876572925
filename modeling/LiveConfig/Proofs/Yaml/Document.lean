import LiveConfig.Proofs.Failing
import LiveConfig.Proofs.Value.Equal
import LiveConfig.Yaml.Document
import Mathlib.Data.List.Induction

/-!
# Values of documents

A document makes maps whose keys are scalars and pairwise different, and sets of scalars.  So every
value that it makes is well made; the induction is on the steps that lead from a node to its value.

**Result.**
* `Yaml.wellMade_load`: the value of a document is well made.
-/

namespace LiveConfig

namespace Value

/-! ## Sets -/

theorem mem_placeAll
    {width : Nat} {members : List (UInt64 × Value)} {p : Placed} (h : p ∈ placeAll width members) :
    p.member ∈ members.map Prod.snd := by
  unfold placeAll at h
  induction members using List.reverseRecOn with
  | nil => cases h
  | append_singleton members m ih =>
    rw [List.foldl_append] at h
    rw [List.map_append]
    rcases List.mem_cons.mp h with rfl | hmem
    · exact List.mem_append_right _ (List.mem_singleton_self _)
    · exact List.mem_append_left _ (ih hmem)

/-- A set has the members that it was made of. -/
theorem wellMade_ofMembers {members : List Value} (h : ∀ x ∈ members, x.isScalar = true) :
    (ofMembers members).WellMade := by
  unfold ofMembers setBy
  cases trailsOf? members with
  | none => exact .set h
  | some trails =>
    refine .set fun x hx => ?_
    obtain ⟨p, hp, rfl⟩ := List.mem_map.mp hx
    have hplaced := mem_placeAll (List.mem_mergeSort.mp hp)
    obtain ⟨m, hm, hmember⟩ := List.mem_map.mp hplaced
    rw [← hmember]
    exact h _ (List.of_mem_zip hm).2

end Value

namespace Yaml

namespace Build

variable {b : Building}

/-- Entries that are written one after another have distinct keys, all of which were written. -/
theorem written_spec
    {α : Type} {es : List (Value × α)} (h : ∀ e ∈ es, e.1.isScalar = true) :
    DistinctKeys (written es) ∧ ∀ e ∈ written es, e.1.isScalar = true := by
  unfold written
  induction es using List.reverseRecOn with
  | nil => exact ⟨List.Pairwise.nil, List.forall_mem_nil _⟩
  | append_singleton es e ih =>
    obtain ⟨hdistinct, hkeys⟩ := ih fun e' he' => h e' (List.mem_append_left _ he')
    rw [List.foldl_append]
    have he : e.1.isScalar = true := h e (by simp)
    refine ⟨distinctKeys_assign hdistinct, fun e' he' => ?_⟩
    have hall := forall_assign (p := fun k : Value => k.isScalar = true) (q := fun _ : α => True)
      he (x := e.2) trivial fun e hmem => ⟨hkeys e hmem, trivial⟩
    exact (hall e' he').1

theorem keyed_spec
    {entries : List (Nat × Nat)} {es : List (Value × Nat)} (h : keyed b entries = some es) :
    DistinctKeys es ∧ ∀ e ∈ es, e.1.isScalar = true := by
  obtain ⟨made, hmade, rfl⟩ := Option.map_eq_some_iff.mp h
  refine written_spec fun e he => ?_
  obtain ⟨entry, -, hentry⟩ := exists_mem_of_mapM hmade he
  obtain ⟨key, -, rfl⟩ := Option.map_eq_some_iff.mp hentry
  exact key.2

/-- A map whose keys are keyed entries and whose values are well made is well made. -/
theorem wellMade_map
    {f : Nat → Option Value} {entries : List (Nat × Nat)} {v : Value}
    (hvalue : ∀ i x, f i = some x → x.WellMade)
    (h : (do
      let entries ← keyed b entries
      (entries.mapM fun e => (f e.2).map fun x => (e.1, x)).map Value.map) = some v) :
    v.WellMade := by
  obtain ⟨es, hes, hmade⟩ := Option.bind_eq_some_iff.mp h
  obtain ⟨made, hmapped, rfl⟩ := Option.map_eq_some_iff.mp hmade
  obtain ⟨hdistinct, hscalar⟩ := keyed_spec hes
  have hkeys : made.map Prod.fst = es.map Prod.fst := by
    refine map_of_mapM hmapped fun e entry hentry => ?_
    obtain ⟨x, -, rfl⟩ := Option.map_eq_some_iff.mp hentry
    rfl
  refine .map ?_ ?_ ?_
  -- the values do not matter for how keys differ
  · have hpairs : (made.map Prod.fst).Pairwise fun a b => (a == b) = false := by
      rw [hkeys]
      exact List.pairwise_map.mpr hdistinct
    exact List.pairwise_map.mp hpairs
  · intro e he
    have hkey : e.1 ∈ es.map Prod.fst := hkeys ▸ List.mem_map_of_mem he
    obtain ⟨e', he', heq⟩ := List.mem_map.mp hkey
    rw [← heq]
    exact hscalar e' he'
  · intro e he
    obtain ⟨e', -, hentry⟩ := exists_mem_of_mapM hmapped he
    obtain ⟨x, hx, rfl⟩ := Option.map_eq_some_iff.mp hentry
    exact hvalue e'.2 x hx

theorem wellMade_list
    {α : Type} {f : α → Option Value} {items : List α} {v : Value}
    (hvalue : ∀ item x, f item = some x → x.WellMade)
    (h : (items.mapM f).map Value.list = some v) : v.WellMade := by
  obtain ⟨made, hmade, rfl⟩ := Option.map_eq_some_iff.mp h
  refine .list fun x hx => ?_
  obtain ⟨item, -, hitem⟩ := exists_mem_of_mapM hmade hx
  exact hvalue item x hitem

/-- What is made of a node is well made, by induction on the steps that are left. -/
theorem wellMade_value? (b : Building) {n : Nat} {around : Around} {i : Nat} {v : Value}
    (h : value? b n around i = some v) : v.WellMade := by
  induction n generalizing around i v with
  | zero => cases h
  | succ n ih =>
    unfold value? at h
    dsimp only at h
    split at h
    · rename_i scalar hscalar
      obtain rfl := Option.some.inj h
      exact .scalar scalar.2
    · split at h
      · split at h
        · obtain rfl := Option.some.inj h
          exact .again
        · exact wellMade_map (f := value? b n (around.within (i, 0))) (fun _ _ => ih) h
      · obtain ⟨members, hmembers, rfl⟩ := Option.map_eq_some_iff.mp h
        refine Value.wellMade_ofMembers fun x hx => ?_
        obtain ⟨e, he, rfl⟩ := List.mem_map.mp hx
        exact (keyed_spec hmembers).2 e he
      · split at h
        · obtain rfl := Option.some.inj h
          exact .again
        · split at h
          · exact wellMade_list (fun _ _ => ih) h
          -- in a list of pairs every item is a pair or an alias
          · refine wellMade_list (fun item x hitem => ?_) h
            split at hitem
            · obtain rfl := Option.some.inj hitem
              exact .again
            · obtain ⟨key, hkey, hrest⟩ := Option.bind_eq_some_iff.mp hitem
              obtain ⟨value, hvalue, hpair⟩ := Option.bind_eq_some_iff.mp hrest
              obtain rfl := Option.some.inj hpair
              exact .tuple (List.forall_mem_cons.mpr
                ⟨ih hkey, List.forall_mem_singleton.mpr (ih hvalue)⟩)
      · cases h

/-- The value of a root is made of it outside of all collections. -/
theorem exists_value?_of_valueOf {root : Nat} {v : Value} (h : (valueOf root).run' b = .ok v) :
    ∃ made n, value? made n [] root = some v := by
  unfold valueOf StateT.run' at h
  obtain ⟨⟨x, b'⟩, hrun, hx⟩ := exists_ok_of_bind h
  obtain rfl := Except.ok.inj hx
  obtain ⟨⟨_, made⟩, -, hmade⟩ := exists_ok_of_bind hrun
  dsimp only [bind, StateT.bind, get, getThe, MonadStateOf.get, StateT.get, pure, Except.pure,
    Except.bind] at hmade
  cases hy : value? made (2 * made.nodes.size + 2) [] root with
  | none =>
    rw [hy] at hmade
    cases hmade
  | some y =>
    rw [hy] at hmade
    obtain ⟨rfl, -⟩ := Prod.mk.inj (Except.ok.inj hmade)
    exact ⟨made, _, hy⟩

end Build

/-- The value of a document is null, or it is made of a node outside of all collections. -/
theorem eq_null_or_exists_value?
    {text : List Char} {v : Value} {count : Nat} (h : load text = .ok (v, count)) :
    v = .null ∨ ∃ b n i, Build.value? b n [] i = some v := by
  obtain ⟨⟨root, nodes⟩, -, hroot⟩ := exists_ok_of_bind h
  cases root with
  | none =>
    obtain ⟨rfl, -⟩ := Prod.mk.inj (Except.ok.inj hroot)
    exact .inl rfl
  | some root =>
    obtain ⟨x, hx, hpair⟩ := exists_ok_of_bind hroot
    obtain ⟨rfl, -⟩ := Prod.mk.inj (Except.ok.inj hpair)
    obtain ⟨b, n, hvalue⟩ := Build.exists_value?_of_valueOf hx
    exact .inr ⟨b, n, root, hvalue⟩

/-- The value of a document is well made. -/
theorem wellMade_load
    {text : List Char} {v : Value} {count : Nat} (h : load text = .ok (v, count)) : v.WellMade := by
  obtain rfl | ⟨b, n, i, hvalue⟩ := eq_null_or_exists_value? h
  · exact .scalar rfl
  · exact Build.wellMade_value? b hvalue

end Yaml

end LiveConfig
