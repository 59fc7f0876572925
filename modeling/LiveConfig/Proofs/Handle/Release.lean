import LiveConfig.Bootstrap.Basic
import LiveConfig.Proofs.Handle.Closing
import Mathlib.Data.List.Perm.Subperm
import Mathlib.Logic.Relation

/-!
# Releasing handles

The walk of a release follows parents, whose graph may have cycles.  It ends with a set of visited
handles that are closed and whose parents are visited too (`Handles.Visited`), so all that the walk
could ever reach is in it.

**Results.**
* `Handles.released_releaseChain`: a release of a tame chain closes all of it.
* `Attempt.released_release`: a release of what a bootstrap allocated closes everything that can be
  reached from it.
-/

namespace LiveConfig

namespace Handles

variable {s t : Handles} {i : Option Nat}

/-- The handles that are reached from one through parents. -/
def OnChain (s : Handles) (i : Option Nat) (j : Nat) : Prop :=
  j < s.handles.length ∧
    ∃ k, i = some k ∧ Relation.ReflTransGen (fun a b => s.parentOf a = some b) k j

theorem lt_of_parentOf
    {k p : Nat} (h : s.parentOf k = some p) : k < s.handles.length := by
  obtain ⟨handle, hget, -⟩ := Option.bind_eq_some_iff.mp h
  exact (List.getElem?_eq_some_iff.mp hget).1

theorem lt_of_isClosed
    {k : Nat} (h : s.isClosed k = true) : k < s.handles.length := by
  unfold isClosed get? at h
  by_contra hge
  rw [List.getElem?_eq_none (Nat.le_of_not_lt hge)] at h
  cases h

theorem Advances.onChain_iff
    (h : s.Advances t) {j : Nat} : t.OnChain i j ↔ s.OnChain i j := by
  simp only [OnChain, h.length_eq, h.parentOf_eq]

/-- What a walk has visited: its start, and with every handle its parent. -/
structure Visited (s : Handles) (i : Option Nat) (visited : List Nat) : Prop where
  start_mem : ∀ k, i = some k → k < s.handles.length → k ∈ visited
  parent_mem : ∀ k ∈ visited, ∀ p, s.parentOf k = some p → p < s.handles.length → p ∈ visited

/-- All of the chain is visited. -/
theorem Visited.mem_of_onChain
    {visited : List Nat} (h : s.Visited i visited) {j : Nat} (hj : s.OnChain i j) :
    j ∈ visited := by
  obtain ⟨hlt, k, hk, hchain⟩ := hj
  induction hchain with
  | refl => exact h.start_mem k hk hlt
  | tail _ hparent ih => exact h.parent_mem _ (ih (lt_of_parentOf hparent)) _ hparent hlt

/-! ## Walking up a chain -/

/-- Distinct closed handles are no more than there are handles. -/
theorem length_le_of_isClosed
    {seen : List Nat} (hnodup : seen.Nodup) (hseen : ∀ k ∈ seen, s.isClosed k = true) :
    seen.length ≤ s.handles.length := by
  have hsub : seen ⊆ List.range s.handles.length := fun k hk =>
    List.mem_range.mpr (lt_of_isClosed (hseen k hk))
  simpa using (List.subperm_of_subset hnodup hsub).length_le

/-- What a walk starts from: seen handles are closed, and their parents were seen or come next. -/
structure Seen (s : Handles) (seen : List Nat) (i : Option Nat) : Prop where
  tame : s.Tame
  nodup : seen.Nodup
  isClosed : ∀ k ∈ seen, s.isClosed k = true
  parent_mem : ∀ k ∈ seen, ∀ p, s.parentOf k = some p → p ∈ seen ∨ i = some p

/-- What a walk leads to: the handles that it saw and then visited are closed. -/
structure Walked (s : Handles) (seen : List Nat) (i : Option Nat) (r : Release) : Prop where
  advances : s.Advances r.handles
  tame : r.handles.Tame
  interrupted_eq : r.interrupted = none
  exists_visited : ∃ visited, seen ⊆ visited ∧ s.Visited i visited ∧
    ∀ k ∈ visited, r.handles.isClosed k = true

section Walk

variable {seen : List Nat}

/-- A walk ends where there is no handle, or one that was seen. -/
theorem Seen.walked
    (h : s.Seen seen i) (failed : List Nat)
    (hstop : ∀ k, i = some k → k < s.handles.length → k ∈ seen) :
    s.Walked seen i ⟨s, failed, none⟩ := by
  refine ⟨Advances.refl s, h.tame, rfl, seen, List.Subset.refl _, ⟨hstop, ?_⟩, h.isClosed⟩
  intro k hk p hp hlt
  rcases h.parent_mem k hk p hp with hmem | hnext
  · exact hmem
  · exact hstop p hnext hlt

variable {k : Nat}

/-- Closing a handle that was not seen makes it one that was. -/
theorem Seen.next
    (h : s.Seen seen (some k)) (hnew : k ∉ seen) (hadv : s.Advances t) (htame : t.Tame)
    (hclosed : t.isClosed k = true) :
    t.Seen (k :: seen) (t.parentOf k) where
  tame := htame
  nodup := List.nodup_cons.mpr ⟨hnew, h.nodup⟩
  isClosed := List.forall_mem_cons.mpr
    ⟨hclosed, fun k' hk' => hadv.isClosed_of k' (h.isClosed k' hk')⟩
  parent_mem := by
    refine List.forall_mem_cons.mpr ⟨fun p hp => Or.inr hp, fun k' hk' p hp => Or.inl ?_⟩
    rw [hadv.parentOf_eq] at hp
    rcases h.parent_mem k' hk' p hp with hmem | heq
    · exact List.mem_cons_of_mem _ hmem
    · exact List.mem_cons.mpr (Or.inl (Option.some.inj heq).symm)

theorem Walked.prev
    {r : Release} (h : t.Walked (k :: seen) (t.parentOf k) r) (hadv : s.Advances t) :
    s.Walked seen (some k) r := by
  obtain ⟨visited, hsub, hvisited, hclosed⟩ := h.exists_visited
  obtain ⟨hk, hseen⟩ := List.cons_subset.mp hsub
  refine ⟨hadv.trans h.advances, h.tame, h.interrupted_eq, visited, hseen, ⟨?_, ?_⟩, hclosed⟩
  · rintro k' ⟨⟩ -
    exact hk
  · intro k' hk' p hp hlt
    rw [← hadv.parentOf_eq] at hp
    rw [← hadv.length_eq] at hlt
    exact hvisited.parent_mem k' hk' p hp hlt

end Walk

/-- With more steps than there are handles left to see, a walk ends by itself. -/
theorem walked_releaseFrom
    {n : Nat} {seen : List Nat} {i : Option Nat} {s : Handles}
    (h : s.Seen seen i) (hfuel : s.handles.length < seen.length + n) (failed : List Nat) :
    s.Walked seen i (releaseFrom n seen i s failed) := by
  induction n generalizing seen i s failed with
  | zero =>
    -- every step has seen another handle, so the steps cannot run out before the handles do
    have := length_le_of_isClosed h.nodup h.isClosed
    omega
  | succ n ih =>
    cases i with
    | none => exact h.walked failed fun _ hk => nomatch hk
    | some k =>
      rw [releaseFrom]
      split
      · rename_i hmem
        refine h.walked failed ?_
        rintro k' ⟨⟩ -
        exact List.contains_iff_mem.mp hmem
      · rename_i hmem
        have hnew : k ∉ seen := fun hk => hmem (List.contains_iff_mem.mpr hk)
        split
        · rename_i hget
          refine h.walked failed ?_
          rintro k' ⟨⟩ hlt
          exact absurd (List.getElem?_eq_none_iff.mp hget) (Nat.not_le_of_lt hlt)
        · rename_i handle hget
          have hlt : k < s.handles.length := (List.getElem?_eq_some_iff.mp hget).1
          have hcloses := closes_close k s
          have hclosed := isClosed_close hlt
          have hfuel' (t : Handles) (hadv : s.Advances t) :
              t.handles.length < (k :: seen).length + n := by
            rw [hadv.length_eq, List.length_cons]
            omega
          split
          · rename_i t ht
            rw [ht] at hcloses hclosed
            have hadv := hcloses.advances
            have hseen := h.next hnew hadv (hcloses.tame_of h.tame) hclosed
            exact (ih hseen (hfuel' t hadv) failed).prev hadv
          · rename_i t failure ht
            rw [ht] at hcloses hclosed
            rw [if_pos (hcloses.isOrdinary h.tame failure rfl)]
            have hadv : s.Advances (t.recordReleaseFailure handle.name failure) :=
              hcloses.advances.trans (Advances.of_handles_eq rfl)
            have hseen := h.next hnew hadv (hcloses.tame_of h.tame) hclosed
            exact (ih hseen (hfuel' _ hadv) _).prev hadv

/-! ## Releasing chains -/

/-- What the release of tame chains leads to. -/
structure Released (s : Handles) (starts : List (Option Nat)) (c : Closing) : Prop where
  advances : s.Advances c.1
  tame : c.1.Tame
  interruption_eq : c.2 = none
  isClosed : ∀ i ∈ starts, ∀ j, s.OnChain i j → c.1.isClosed j = true

theorem released_releaseChain (h : s.Tame) (i : Option Nat) :
    s.Released [i] ((s.releaseChain i).handles, (s.releaseChain i).interrupted) := by
  have hseen : s.Seen [] i :=
    ⟨h, List.nodup_nil, List.forall_mem_nil _, List.forall_mem_nil _⟩
  have hwalked := walked_releaseFrom (n := s.handles.length + 1) hseen (by simp) []
  obtain ⟨visited, -, hvisited, hclosed⟩ := hwalked.exists_visited
  refine ⟨hwalked.advances, hwalked.tame, hwalked.interrupted_eq, ?_⟩
  intro i' hi j hj
  rw [List.mem_singleton.mp hi] at hj
  exact hclosed j (hvisited.mem_of_onChain hj)

theorem released_releaseAll (starts : List (Option Nat)) (h : s.Tame) :
    s.Released starts (releaseAll starts s) := by
  induction starts generalizing s with
  | nil => exact ⟨Advances.refl s, h, rfl, List.forall_mem_nil _⟩
  | cons i rest ih =>
    have hchain := released_releaseChain h i
    have hrest := ih hchain.tame
    have hnone : (s.releaseChain i).interrupted = none := hchain.interruption_eq
    simp only [releaseAll, hnone]
    refine ⟨hchain.advances.trans hrest.advances, hrest.tame, hrest.interruption_eq, ?_⟩
    refine List.forall_mem_cons.mpr ⟨fun j hj => ?_, fun i' hi' j hj => ?_⟩
    · exact hrest.advances.isClosed_of j (hchain.isClosed i (List.mem_singleton_self i) j hj)
    · exact hrest.isClosed i' hi' j (hchain.advances.onChain_iff.mpr hj)

end Handles

/-- A release of tame handles is not interrupted and closes all that a bootstrap allocated. -/
theorem Attempt.released_release
    {attempt : Attempt} (h : attempt.tracking.handles.Tame) :
    attempt.tracking.handles.Released attempt.releaseOrder attempt.release :=
  Handles.released_releaseAll _ h

end LiveConfig
