import LiveConfig.File.Path
import Mathlib.Data.List.Basic

/-!
# Paths and their texts

A path that is made from a text is normal: its root is one of the three that there are, and its
names are neither empty nor a single dot and hold no slash.  Joined paths are normal too.  A normal
path is read back from its text, so that different normal paths have different texts.

**Results.**
* `FilePath.isNormal_ofText`, `FilePath.IsNormal.join`: the ways to make a normal path.
* `FilePath.ofText_text`: the text of a normal path reads back.
-/

namespace LiveConfig

namespace Text

/-! ## Parts between separators -/

section Parts

variable {α : Type} [DecidableEq α] {separator : α}

theorem partsAt_of_not_mem {xs : List α} (h : separator ∉ xs) : partsAt separator xs = [xs] := by
  induction xs with
  | nil => rfl
  | cons x xs ih =>
    obtain ⟨hx, hxs⟩ := not_or.mp (mt List.mem_cons.mpr h)
    rw [partsAt, if_neg (Ne.symm hx), ih hxs]

theorem partsAt_append_cons {xs : List α} (h : separator ∉ xs) (ys : List α) :
    partsAt separator (xs ++ separator :: ys) = xs :: partsAt separator ys := by
  induction xs with
  | nil => exact if_pos rfl
  | cons x xs ih =>
    obtain ⟨hx, hxs⟩ := not_or.mp (mt List.mem_cons.mpr h)
    rw [List.cons_append, partsAt, if_neg (Ne.symm hx), ih hxs]

/-- Parts that are joined by a separator that none of them holds come apart again. -/
theorem partsAt_intercalate
    {part : List α} {parts : List (List α)} (h : ∀ xs ∈ part :: parts, separator ∉ xs) :
    partsAt separator ([separator].intercalate (part :: parts)) = part :: parts := by
  induction parts generalizing part with
  | nil =>
    rw [List.intercalate_singleton]
    exact partsAt_of_not_mem (h part List.mem_cons_self)
  | cons next parts ih =>
    rw [List.intercalate_cons_cons, List.append_assoc, List.singleton_append,
      partsAt_append_cons (h part List.mem_cons_self),
      ih fun xs hxs => h xs (List.mem_cons_of_mem _ hxs)]

theorem not_mem_of_mem_partsAt
    {xs part : List α} (h : part ∈ partsAt separator xs) : separator ∉ part := by
  induction xs generalizing part with
  | nil =>
    rw [List.mem_singleton.mp h]
    exact List.not_mem_nil
  | cons x xs ih =>
    rw [partsAt] at h
    split at h
    · rcases List.mem_cons.mp h with rfl | hrest
      · exact List.not_mem_nil
      · exact ih hrest
    · rename_i hx
      split at h
      · rw [List.mem_singleton.mp h]
        exact mt List.mem_singleton.mp (Ne.symm hx)
      · rename_i first rest hparts
        rw [hparts] at ih
        rcases List.mem_cons.mp h with rfl | hrest
        · exact mt List.mem_cons.mp (not_or.mpr ⟨Ne.symm hx, ih List.mem_cons_self⟩)
        · exact ih (List.mem_cons_of_mem _ hrest)

end Parts

end Text

namespace FilePath

/-! ## Normal paths -/

/-- Whether a text is a name within a path: not empty, no single dot, and without a slash. -/
def IsName (name : Text) : Prop :=
  name.points ≠ [] ∧ name ≠ Text.ofString "." ∧ CodePoint.char '/' ∉ name.points

/-- A path as it is made from a text. -/
structure IsNormal (path : FilePath) : Prop where
  root_mem : path.root ∈ ["", "/", "//"]
  isName : ∀ part ∈ path.parts, IsName part

theorem rootOf_mem (n : Nat) : rootOf n ∈ ["", "/", "//"] := by
  unfold rootOf
  split <;> decide

theorem isNormal_ofText (text : Text) : (ofText text).IsNormal := by
  refine ⟨rootOf_mem _, fun part hpart => ?_⟩
  obtain ⟨hsplit, hkept⟩ := List.mem_filter.mp hpart
  obtain ⟨points, hpoints, rfl⟩ := List.mem_map.mp hsplit
  obtain ⟨hempty, hdot⟩ := (Bool.and_eq_true _ _).mp hkept
  refine ⟨fun hnil => ?_, bne_iff_ne.mp hdot, Text.not_mem_of_mem_partsAt hpoints⟩
  have hpoints' : points = [] := hnil
  simp [Text.isEmpty, hpoints'] at hempty

theorem IsNormal.join
    {base path : FilePath} (hbase : base.IsNormal) (hpath : path.IsNormal) :
    (base.join path).IsNormal := by
  unfold FilePath.join
  split
  · refine ⟨hbase.root_mem, fun part hpart => ?_⟩
    rcases List.mem_append.mp hpart with hmem | hmem
    · exact hbase.isName part hmem
    · exact hpath.isName part hmem
  · exact hpath

/-! ## Reading a path back -/

theorem filter_isName {parts : List Text} (h : ∀ part ∈ parts, IsName part) :
    (parts.filter fun part => !part.isEmpty && part != Text.ofString ".") = parts := by
  refine List.filter_eq_self.mpr fun part hpart => ?_
  obtain ⟨hempty, hdot, -⟩ := h part hpart
  simp [Text.isEmpty, hempty, hdot]

/-- The names among some parts of a text. -/
def namesOf (parts : List (List CodePoint)) : List Text :=
  (parts.map Text.mk).filter fun part => !part.isEmpty && part != Text.ofString "."

theorem namesOf_nil_cons (parts : List (List CodePoint)) : namesOf ([] :: parts) = namesOf parts :=
  rfl

/-- Slashes in front of a text add no names. -/
theorem namesOf_replicate_append (n : Nat) (points : List CodePoint) :
    namesOf (Text.partsAt (.char '/') (List.replicate n (.char '/') ++ points)) =
      namesOf (Text.partsAt (.char '/') points) := by
  induction n with
  | zero => rfl
  | succ n ih =>
    rw [List.replicate_succ, List.cons_append, Text.partsAt, if_pos rfl, namesOf_nil_cons, ih]

theorem namesOf_partsAt_intercalate
    {parts : List Text} (h : ∀ part ∈ parts, IsName part) :
    namesOf (Text.partsAt (.char '/')
      ([CodePoint.char '/'].intercalate (parts.map Text.points))) = parts := by
  cases parts with
  | nil => rfl
  | cons part rest =>
    have hslash : ∀ points ∈ part.points :: rest.map Text.points, .char '/' ∉ points := by
      intro points hpoints
      obtain ⟨name, hname, rfl⟩ := List.mem_map.mp (List.map_cons ▸ hpoints)
      exact (h name hname).2.2
    have hmap : (part.points :: rest.map Text.points).map Text.mk = part :: rest := by
      rw [List.map_cons, List.map_map]
      exact congrArg (part :: ·) (List.map_id rest)
    rw [List.map_cons, Text.partsAt_intercalate hslash, namesOf, hmap]
    exact filter_isName h

/-- A text of names does not start with a slash. -/
theorem takeWhile_intercalate
    {parts : List Text} (h : ∀ part ∈ parts, IsName part) :
    ([CodePoint.char '/'].intercalate (parts.map Text.points)).takeWhile
      (· == CodePoint.char '/') = [] := by
  cases parts with
  | nil => rfl
  | cons part rest =>
    obtain ⟨hnonempty, -, hslash⟩ := h part List.mem_cons_self
    obtain ⟨c, cs, hpoints⟩ := List.exists_cons_of_ne_nil hnonempty
    have hc : (c == CodePoint.char '/') = false := by
      refine beq_eq_false_iff_ne.mpr fun hc => hslash ?_
      rw [hpoints, hc]
      exact List.mem_cons_self
    have hstart (tail : List CodePoint) :
        (part.points ++ tail).takeWhile (· == CodePoint.char '/') = [] := by
      rw [hpoints, List.cons_append, List.takeWhile_cons_of_neg (by simp [hc])]
    cases rest with
    | nil =>
      have hlast := hstart []
      rw [List.append_nil] at hlast
      rwa [List.map_singleton, List.intercalate_singleton]
    | cons next rest =>
      rw [List.map_cons, List.map_cons, List.intercalate_cons_cons, List.append_assoc]
      exact hstart _

/-- A text of slashes and names is the path with that root and these names. -/
theorem ofText_of_points
    {text : Text} {parts : List Text} (n : Nat) (hparts : ∀ part ∈ parts, IsName part)
    (htext : text.points =
      List.replicate n (.char '/') ++ [CodePoint.char '/'].intercalate (parts.map Text.points)) :
    ofText text = ⟨rootOf n, parts⟩ := by
  have hslashes : text.points.takeWhile (· == CodePoint.char '/') =
      List.replicate n (.char '/') := by
    rw [htext, List.takeWhile_append_of_pos fun c hc => by simp [List.eq_of_mem_replicate hc],
      takeWhile_intercalate hparts, List.append_nil]
  have hnames : namesOf (Text.partsAt (.char '/') text.points) = parts := by
    rw [htext, namesOf_replicate_append, namesOf_partsAt_intercalate hparts]
  show FilePath.mk (rootOf (text.points.takeWhile _).length) (namesOf _) = _
  rw [hslashes, hnames, List.length_replicate]

/-- The text of a normal path reads back. -/
theorem ofText_text {path : FilePath} (h : path.IsNormal) : ofText path.text = path := by
  obtain ⟨root, parts⟩ := path
  obtain ⟨hroot, hparts⟩ := h
  have hrooted (n : Nat) (hn : root = rootOf n)
      (hpoints : (Text.ofString root).points = List.replicate n (.char '/'))
      (htext : (⟨root, parts⟩ : FilePath).text = root ++ Text.joined "/" parts) :
      ofText (⟨root, parts⟩ : FilePath).text = ⟨root, parts⟩ := by
    rw [htext, hn]
    refine ofText_of_points n hparts ?_
    rw [← hn, Text.append_points, hpoints]
    rfl
  simp only [List.mem_cons, List.not_mem_nil, or_false] at hroot
  rcases hroot with rfl | rfl | rfl
  · cases parts with
    | nil => rfl
    | cons part rest => exact hrooted 0 rfl rfl rfl
  · exact hrooted 1 rfl rfl rfl
  · exact hrooted 2 rfl rfl rfl

theorem text_inj {path other : FilePath} (h : path.IsNormal) (h' : other.IsNormal) :
    path.text = other.text ↔ path = other := by
  constructor
  · intro heq
    rw [← ofText_text h, heq, ofText_text h']
  · exact congrArg text

end FilePath

end LiveConfig
