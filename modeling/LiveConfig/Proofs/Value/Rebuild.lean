import LiveConfig.Proofs.Value.Leaves

/-!
# Rebuilding a nested map from its flat keys

A path of clean names is read from its end to its start: a dot ends a name, an opening bracket ends
an index, and neither of them occurs within a name or an index (`Position.read_text`).  A value is
grown from its leaves, one after another in document order: a leaf goes to its position, and the
maps and lists that lead there are made when the first leaf below them comes (`grow_leaves`).  Both
together undo flattening.

**Result.**
* `Value.flatten_lossless`: on clean keys flattening has one pair for each leaf, different leaves
  have different flat keys, and the map can be rebuilt from the pairs.
-/

namespace LiveConfig.Value

/-! ## Reading paths -/

/-- How a step is written below a base. -/
def Step.points : Step → List CodePoint
  | .key name => .char '.' :: name.points
  | .index i => .char '[' :: ((Nat.toDigits 10 i ++ [']']).map .char)

/-- The number of an index in front of its closing bracket. -/
def readIndex (points : List CodePoint) : Nat :=
  Nat.ofDigitChars 10 (points.dropLast.filterMap CodePoint.char?) 0

/--
What is read from the end of a path up to some place: the characters of a step that has not begun
yet, and the steps behind it.
-/
abbrev Reading := List CodePoint × Position

/-- Reads one more code point. -/
def Reading.back (c : CodePoint) (r : Reading) : Reading :=
  if c = .char '.' then ([], .key ⟨r.1⟩ :: r.2)
  else if c = .char '[' then ([], .index (readIndex r.1) :: r.2)
  else (c :: r.1, r.2)

/-- The position that a path below a base tells. -/
def Position.read (base path : Text) : Position :=
  let r := (path.points.drop base.points.length).foldr Reading.back ([], [])
  if base.isEmpty then .key ⟨r.1⟩ :: r.2 else r.2

/-- All names in a position are clean. -/
def Position.IsClean (p : Position) : Prop :=
  ∀ name, Step.key name ∈ p → name.IsClean

/-- Points that end no step are read as they are. -/
theorem foldr_back_of_not_mem
    {points : List CodePoint} (hdot : CodePoint.char '.' ∉ points)
    (hbracket : CodePoint.char '[' ∉ points) (r : Reading) :
    points.foldr Reading.back r = (points ++ r.1, r.2) := by
  induction points with
  | nil => rfl
  | cons c points ih =>
    obtain ⟨hc, hrest⟩ := List.ne_and_not_mem_of_not_mem_cons hdot
    obtain ⟨hc', hrest'⟩ := List.ne_and_not_mem_of_not_mem_cons hbracket
    rw [List.foldr_cons, ih hrest hrest', Reading.back, if_neg hc.symm, if_neg hc'.symm]
    rfl

theorem not_mem_indexPoints {c : Char} (hdigit : c.isDigit = false) (hc : c ≠ ']') (i : Nat) :
    CodePoint.char c ∉ (Nat.toDigits 10 i ++ [']']).map CodePoint.char := by
  intro hmem
  obtain ⟨d, hd, heq⟩ := List.mem_map.mp hmem
  obtain rfl := CodePoint.char.inj heq
  rcases List.mem_append.mp hd with hd | hd
  · rw [Nat.isDigit_of_mem_toDigits (by decide) (by decide) hd] at hdigit
    cases hdigit
  · exact hc (List.mem_singleton.mp hd)

theorem readIndex_points (i : Nat) :
    readIndex ((Nat.toDigits 10 i ++ [']']).map CodePoint.char) = i := by
  have hchars (cs : List Char) : (cs.map CodePoint.char).filterMap CodePoint.char? = cs := by
    rw [List.filterMap_map]
    exact List.filterMap_some
  rw [readIndex, List.map_append, List.map_singleton, List.dropLast_concat, hchars]
  exact Nat.ofDigitChars_ten_toDigits

/-- The steps of a position are read back one by one. -/
theorem foldr_back_flatMap {p : Position} (h : p.IsClean) :
    (p.flatMap Step.points).foldr Reading.back ([], []) = ([], p) := by
  induction p with
  | nil => rfl
  | cons step p ih =>
    have hp : Position.IsClean p := fun name hname => h name (List.mem_cons_of_mem _ hname)
    rw [List.flatMap_cons, List.foldr_append, ih hp]
    cases step with
    | key name =>
      have hname := h name List.mem_cons_self
      rw [Step.points, List.foldr_cons, foldr_back_of_not_mem hname.no_dot hname.no_bracket,
        Reading.back, if_pos rfl, List.append_nil]
    | index i =>
      have hdot := not_mem_indexPoints (c := '.') (by decide) (by decide) i
      have hbracket := not_mem_indexPoints (c := '[') (by decide) (by decide) i
      rw [Step.points, List.foldr_cons, foldr_back_of_not_mem hdot hbracket, Reading.back,
        if_neg (by decide), if_pos rfl, List.append_nil, readIndex_points]

theorem points_itemPath (base : Text) (i : Nat) :
    (itemPath base i).points = base.points ++ (Step.index i).points := by
  have hdigits : (Text.ofString (toString i)).points = (Nat.toDigits 10 i).map CodePoint.char := by
    rw [Nat.toString_eq_ofList_toDigits]
    exact congrArg (List.map CodePoint.char) String.toList_ofList
  unfold itemPath
  rw [Text.append_points, Text.append_points, Text.append_points, hdigits, Step.points,
    List.map_append, List.append_assoc, List.append_assoc]
  rfl

/-- Below a base each step is written behind the one before. -/
theorem points_text {base : Text} (hbase : base.points ≠ []) (p : Position) :
    (p.text base).points = base.points ++ p.flatMap Step.points := by
  induction p generalizing base with
  | nil => simp [Position.text]
  | cons step p ih =>
    have hstep : (step.pathFrom base).points = base.points ++ step.points := by
      cases step with
      | index i => exact points_itemPath base i
      | key name =>
        have hnot : base.isEmpty = false := List.isEmpty_eq_false_iff.mpr hbase
        rw [Step.pathFrom, hnot]
        exact List.append_assoc _ _ _
    have hne : (step.pathFrom base).points ≠ [] := by
      rw [hstep]
      exact List.append_ne_nil_of_left_ne_nil hbase _
    rw [List.flatMap_cons, ← List.append_assoc, ← hstep]
    exact ih hne

/-- A position with clean names is read back from its path. -/
theorem Position.read_text
    {base : Text} {name : Text} {p : Position} (h : Position.IsClean (.key name :: p)) :
    Position.read base (Position.text base (.key name :: p)) = .key name :: p := by
  have hname := h name List.mem_cons_self
  by_cases hbase : base.points = []
  · have hp : Position.IsClean p := fun other hother => h other (List.mem_cons_of_mem _ hother)
    have hempty : base.isEmpty = true := List.isEmpty_iff.mpr hbase
    have htext : Position.text base (.key name :: p) = Position.text name p := by
      show Position.text ((Step.key name).pathFrom base) p = _
      rw [Step.pathFrom, hempty]
      rfl
    rw [Position.read, htext, points_text hname.ne_nil, hbase]
    simp only [List.length_nil, List.drop_zero, List.foldr_append, foldr_back_flatMap hp,
      foldr_back_of_not_mem hname.no_dot hname.no_bracket, hempty, if_true, List.append_nil]
  · have hnot : base.isEmpty = false := List.isEmpty_eq_false_iff.mpr hbase
    rw [Position.read, points_text hbase, List.drop_left, foldr_back_flatMap h, hnot]
    rfl

/-! ## Growing a value from its leaves -/

/-- The entries of a map; anything else has none yet. -/
def entriesWithin : Value → List (Value × Value)
  | .map entries => entries
  | _ => []

/-- The items of a list; anything else has none yet. -/
def itemsWithin : Value → List Value
  | .list items => items
  | _ => []

/-- Puts a leaf at a position of a value that has all leaves before it in document order. -/
def grow (leaf : Value) : Position → Value → Value
  | [], _ => leaf
  | .key name :: p, v =>
    let inner := (firstValue? (.str name) v.entriesWithin).getD .null
    .map (assign (.str name) (grow leaf p inner) v.entriesWithin)
  | .index i :: p, v =>
    .list (v.itemsWithin.take i ++ [grow leaf p (v.itemsWithin[i]?.getD .null)])

/-- Puts a leaf at its position. -/
def put (v : Value) (l : Leaf) : Value :=
  grow l.2 l.1 v

/-- The map entries that flat entries below a base tell. -/
def unflatten (base : Text) (t : Entries) : List (Value × Value) :=
  ((t.entries.map fun e => (Position.read base e.1.display, e.2)).foldl put (.map [])).entriesWithin

@[simp]
theorem entriesWithin_map (entries : List (Value × Value)) :
    (Value.map entries).entriesWithin = entries := rfl

@[simp]
theorem itemsWithin_list (items : List Value) : (Value.list items).itemsWithin = items := rfl

/-- Leaves below one key grow the value of this key. -/
theorem foldl_put_key (name : Text) (l : Leaf) (ls : List Leaf) (v : Value) :
    ((l :: ls).map (Leaf.below (.key name))).foldl put v =
      .map (assign (.str name)
        ((l :: ls).foldl put ((firstValue? (.str name) v.entriesWithin).getD .null))
        v.entriesWithin) := by
  induction ls generalizing l v with
  | nil => rfl
  | cons l' ls ih =>
    have hself : (Value.str name == Value.str name) = true := by simp
    rw [List.map_cons, List.foldl_cons, ih, List.foldl_cons (l := l' :: ls)]
    simp only [put, Leaf.below, grow, entriesWithin_map, firstValue?_assign, hself, if_true,
      Option.getD_some, assign_assign hself]

/-- Leaves below one index grow the item at this index. -/
theorem foldl_put_index (l : Leaf) (ls : List Leaf) {v : Value} {i : Nat}
    (hi : i ≤ v.itemsWithin.length) :
    ((l :: ls).map (Leaf.below (.index i))).foldl put v =
      .list (v.itemsWithin.take i ++
        [(l :: ls).foldl put (v.itemsWithin[i]?.getD .null)]) := by
  induction ls generalizing l v with
  | nil => rfl
  | cons l' ls ih =>
    have hput : put v (Leaf.below (.index i) l) =
        .list (v.itemsWithin.take i ++ [put (v.itemsWithin[i]?.getD .null) l]) := rfl
    have hlength : (v.itemsWithin.take i).length = i := List.length_take_of_le hi
    have hnext : i ≤ (put v (Leaf.below (.index i) l)).itemsWithin.length := by
      rw [hput, itemsWithin_list, List.length_append, hlength]
      exact Nat.le_add_right _ _
    rw [List.map_cons, List.foldl_cons, ih l' hnext, List.foldl_cons (l := l' :: ls), hput,
      itemsWithin_list, List.take_left' hlength,
      List.getElem?_append_right (Nat.le_of_eq hlength), hlength, Nat.sub_self]
    rfl

/-- Every value has a leaf, if its leaves grow it. -/
theorem exists_leaves_cons {v : Value} (h : (leaves v).foldl put .null = v) :
    ∃ l ls, leaves v = l :: ls := by
  cases hleaves : leaves v with
  | nil =>
    rw [hleaves] at h
    rw [← h] at hleaves
    cases hleaves
  | cons l ls => exact ⟨l, ls, rfl⟩

/-- The leaves of an entry under a fresh key grow this entry behind those that are there. -/
theorem foldl_put_entry
    {e : Value × Value} {v : Value} (hfresh : ∀ f ∈ v.entriesWithin, (f.1 == e.1) = false)
    (hkey : e.1.IsCleanKey) (h : (leaves e.2).foldl put .null = e.2) :
    ((leaves e.2).map (Leaf.below (.key e.1.display))).foldl put v =
      .map (v.entriesWithin ++ [e]) := by
  obtain ⟨key, x⟩ := e
  obtain ⟨name, hname, -⟩ := hkey
  obtain rfl : key = .str name := hname
  obtain ⟨l, ls, hleaves⟩ := exists_leaves_cons h
  have hgrown := foldl_put_key name l ls v
  rw [firstValue?_of_not_mem hfresh, assign_of_not_mem hfresh, ← hleaves] at hgrown
  exact hgrown.trans (congrArg (fun y => Value.map (v.entriesWithin ++ [(.str name, y)])) h)

theorem foldl_put_entries
    {es : List (Value × Value)} (done : List (Value × Value))
    (hdistinct : DistinctKeys (done ++ es))
    (h : ∀ e ∈ es, e.1.IsCleanKey ∧ (leaves e.2).foldl put .null = e.2) :
    (leavesOfEntries es).foldl put (.map done) = .map (done ++ es) := by
  induction es generalizing done with
  | nil => rw [List.append_nil]; rfl
  | cons e es ih =>
    obtain ⟨⟨hkey, he⟩, hes⟩ := List.forall_mem_cons.mp h
    have hfresh : ∀ f ∈ done, (f.1 == e.1) = false := fun f hf =>
      (List.pairwise_append.mp hdistinct).2.2 f hf e List.mem_cons_self
    have hnext : done ++ e :: es = (done ++ [e]) ++ es := by simp
    rw [leavesOfEntries, List.foldl_append,
      foldl_put_entry (v := .map done) hfresh hkey he, entriesWithin_map, hnext]
    exact ih (done ++ [e]) (hnext ▸ hdistinct) hes

/-- The leaves of an item grow this item behind those that are there. -/
theorem foldl_put_item
    {x v : Value} (h : (leaves x).foldl put .null = x) :
    ((leaves x).map (Leaf.below (.index v.itemsWithin.length))).foldl put v =
      .list (v.itemsWithin ++ [x]) := by
  obtain ⟨l, ls, hleaves⟩ := exists_leaves_cons h
  have hgrown := foldl_put_index l ls (Nat.le_refl v.itemsWithin.length)
  rw [List.take_length, List.getElem?_eq_none (Nat.le_refl _), ← hleaves] at hgrown
  exact hgrown.trans (congrArg (fun y => Value.list (v.itemsWithin ++ [y])) h)

theorem foldl_put_items
    {xs : List Value} (done : List Value) (h : ∀ x ∈ xs, (leaves x).foldl put .null = x) :
    (leavesOfItems done.length xs).foldl put (.list done) = .list (done ++ xs) := by
  induction xs generalizing done with
  | nil => rw [List.append_nil]; rfl
  | cons x xs ih =>
    obtain ⟨hx, hxs⟩ := List.forall_mem_cons.mp h
    have hitem := foldl_put_item (v := .list done) hx
    have hlength : done.length + 1 = (done ++ [x]).length := by simp
    rw [itemsWithin_list] at hitem
    rw [leavesOfItems, List.foldl_append, hitem, hlength, ih _ hxs, List.append_assoc]
    rfl

/-- A value with clean keys is grown from its leaves. -/
theorem grow_leaves {v : Value} (h : v.HasCleanKeys) : (leaves v).foldl put .null = v := by
  induction h with
  | leaf hleaf =>
    rw [leaves_of_isLeaf hleaf]
    rfl
  | @list items hne _ ih =>
    obtain ⟨x, xs, rfl⟩ := List.exists_cons_of_ne_nil hne
    obtain ⟨hx, hxs⟩ := List.forall_mem_cons.mp ih
    have hfirst := foldl_put_item (v := .null) hx
    rw [leaves_list hne, leavesOfItems, List.foldl_append]
    exact (congrArg (List.foldl put · _) hfirst).trans (foldl_put_items [x] hxs)
  | @map entries hne hdistinct hkeys _ ih =>
    obtain ⟨e, es, rfl⟩ := List.exists_cons_of_ne_nil hne
    obtain ⟨hkey, hrest⟩ := List.forall_mem_cons.mp hkeys
    obtain ⟨he, hes⟩ := List.forall_mem_cons.mp ih
    have hfirst := foldl_put_entry (v := .null) (List.forall_mem_nil _) hkey he
    rw [leaves_map hne, leavesOfEntries, List.foldl_append]
    exact (congrArg (List.foldl put · _) hfirst).trans
      (foldl_put_entries [e] hdistinct fun f hf => ⟨hrest f hf, hes f hf⟩)

/-! ## What flattening keeps -/

/-- The position of a leaf consists of keys and indices that can be read back. -/
theorem isClean_of_mem_leaves
    {v : Value} (h : v.HasCleanKeys) : ∀ l ∈ leaves v, Position.IsClean l.1 := by
  have hbelow {step : Step} {l : Leaf} (hstep : ∀ name, step = .key name → name.IsClean)
      (hl : Position.IsClean l.1) : Position.IsClean (l.below step).1 := by
    intro name hname
    rcases List.mem_cons.mp hname with hname | hname
    · exact hstep name hname.symm
    · exact hl name hname
  induction h with
  | leaf hleaf =>
    rw [leaves_of_isLeaf hleaf]
    simp [Position.IsClean]
  | @list items hne _ ih =>
    rw [leaves_list hne, leavesOfItems_eq]
    intro l hl
    obtain ⟨e, he, hmem⟩ := List.mem_flatMap.mp hl
    obtain ⟨m, hm, rfl⟩ := List.mem_map.mp hmem
    exact hbelow (fun _ h => nomatch h) (ih e.1 (List.fst_mem_of_mem_zipIdx he) m hm)
  | @map entries hne _ hkeys _ ih =>
    rw [leaves_map hne, leavesOfEntries_eq]
    intro l hl
    obtain ⟨e, he, hmem⟩ := List.mem_flatMap.mp hl
    obtain ⟨m, hm, rfl⟩ := List.mem_map.mp hmem
    obtain ⟨name, hname, hclean⟩ := hkeys e he
    refine hbelow (fun other hother => ?_) (ih e he m hm)
    rw [hname] at hother
    exact Step.key.inj hother ▸ hclean

theorem read_text_of_mem
    {entries : List (Value × Value)} (h : (Value.map entries).HasCleanKeys) (base : Text) :
    ∀ l ∈ leavesOfEntries entries, Position.read base (Position.text base l.1) = l.1 := by
  intro l hl
  have hne : entries ≠ [] := by
    rintro rfl
    cases hl
  have hclean := isClean_of_mem_leaves h l (by rwa [leaves_map hne])
  rw [leavesOfEntries_eq] at hl
  obtain ⟨e, he, hmem⟩ := List.mem_flatMap.mp hl
  obtain ⟨m, hm, rfl⟩ := List.mem_map.mp hmem
  exact Position.read_text hclean

theorem nodup_leavesOfEntries
    {entries : List (Value × Value)} (h : (Value.map entries).HasCleanKeys) :
    ((leavesOfEntries entries).map Prod.fst).Nodup := by
  by_cases hne : entries = []
  · subst hne
    exact List.nodup_nil
  · rw [← leaves_map hne]
    exact nodup_positions h

/-- Different leaves have different flat keys, since a flat key tells the position. -/
theorem nodup_texts
    {entries : List (Value × Value)} (h : (Value.map entries).HasCleanKeys) (base : Text) :
    ((leavesOfEntries entries).map fun l => Position.text base l.1).Nodup := by
  have hread : ((leavesOfEntries entries).map fun l => Position.text base l.1).map
      (Position.read base) = (leavesOfEntries entries).map Prod.fst := by
    rw [List.map_map]
    exact List.map_congr_left (read_text_of_mem h base)
  exact List.Nodup.of_map (Position.read base) (hread ▸ nodup_leavesOfEntries h)

/-- Flattening gives one pair for each leaf, in document order. -/
theorem exists_flatten
    {entries : List (Value × Value)} (h : (Value.map entries).HasCleanKeys) (base : Text) :
    ∃ t, flatten entries base = .ok t ∧
      t.entries = (leavesOfEntries entries).map (Leaf.write base) := by
  have hdistinct : DistinctKeys ((leavesOfEntries entries).map (Leaf.write base)) := by
    refine List.pairwise_map.mpr ((List.pairwise_map.mp (nodup_texts h base)).imp fun hne => ?_)
    exact (str_beq_str _ _).trans (decide_eq_false hne)
  refine ⟨onePass base entries, ?_, Table.entries_insertAll (t := Table.empty) hdistinct⟩
  rw [flatten_eq_onePass]
  exact if_pos (List.all_eq_true.mpr h.isWritable)

/-- The pairs of the leaves of a map tell the map. -/
theorem unflatten_eq
    {entries : List (Value × Value)} (h : (Value.map entries).HasCleanKeys) {base : Text}
    {t : Entries} (ht : t.entries = (leavesOfEntries entries).map (Leaf.write base)) :
    unflatten base t = entries := by
  have hleaves : t.entries.map (fun e => (Position.read base e.1.display, e.2)) =
      leavesOfEntries entries :=
    calc t.entries.map (fun e => (Position.read base e.1.display, e.2))
      _ = (leavesOfEntries entries).map fun l =>
          (Position.read base (Position.text base l.1), l.2) := by
        rw [ht, List.map_map]
        rfl
      _ = (leavesOfEntries entries).map id :=
        List.map_congr_left fun l hl => Prod.ext (read_text_of_mem h base l hl) rfl
      _ = leavesOfEntries entries := List.map_id _
  have hgrown : (leavesOfEntries entries).foldl put (.map []) = .map ([] ++ entries) :=
    foldl_put_entries [] h.distinct fun e he => ⟨(h.of_map e he).1, grow_leaves (h.of_map e he).2⟩
  rw [unflatten, hleaves, hgrown]
  rfl

/--
**Flattening loses nothing on clean keys.**  It succeeds with one pair for each leaf, in document
order: the path of the position of the leaf, and the leaf itself.  The leaves are exactly the parts
of the map that are neither a map nor a list with something in it, and different leaves have
different flat keys.  The map can be rebuilt from the pairs, so that two maps with the same pairs in
the same order are the same.
-/
theorem flatten_lossless
    (base : Text) (entries : List (Value × Value)) (h : (Value.map entries).HasCleanKeys) :
    ∃ t, flatten entries base = .ok t ∧
      t.entries =
        (leavesOfEntries entries).map (fun l => (.str (Position.text base l.1), l.2)) ∧
      (∀ p x, (p, x) ∈ leavesOfEntries entries ↔
        p ≠ [] ∧ at? p (.map entries) = some x ∧ x.isLeaf = true) ∧
      ((leavesOfEntries entries).map fun l => Position.text base l.1).Nodup ∧
      unflatten base t = entries ∧
      ∀ others u, (Value.map others).HasCleanKeys → flatten others base = .ok u →
        u.entries = t.entries → others = entries := by
  obtain ⟨t, hflatten, ht⟩ := exists_flatten h base
  refine ⟨t, hflatten, ht, fun p x => ?_, nodup_texts h base, unflatten_eq h ht, ?_⟩
  · by_cases hne : entries = []
    · subst hne
      constructor
      · rintro ⟨⟩
      rintro ⟨hp, hat, -⟩
      obtain ⟨step, q, rfl⟩ := List.exists_cons_of_ne_nil hp
      rw [at?_step_of_isLeaf rfl] at hat
      cases hat
    · rw [← leaves_map hne, mem_leaves_iff h]
      refine ⟨fun ⟨hat, hleaf⟩ => ⟨?_, hat, hleaf⟩, fun hx => hx.2⟩
      rintro rfl
      obtain rfl := Option.some.inj hat
      exact hne (List.isEmpty_iff.mp hleaf)
  · intro others u hothers hu hsame
    obtain ⟨u', hu', hentries⟩ := exists_flatten hothers base
    obtain rfl := Except.ok.inj (hu'.symm.trans hu)
    calc others
      _ = unflatten base u' := (unflatten_eq hothers hentries).symm
      _ = unflatten base t := by unfold unflatten; rw [hsame]
      _ = entries := unflatten_eq h ht

/-! ## An example -/

/-- A name of one letter. -/
def letterName (c : Char) : Text :=
  ⟨[.char c]⟩

/-- A map with a list in a map, and with an empty map and an empty list. -/
def nestedExample : List (Value × Value) :=
  [(.str (letterName 'a'),
    .map [(.str (letterName 'b'), .list [.str (letterName 'x'), .map []]),
      (.str (letterName 'c'), .list [])])]

theorem hasCleanKeys_nestedExample : (Value.map nestedExample).HasCleanKeys := by
  have hclean (c : Char) (h : c ≠ '.' ∧ c ≠ '[') : (Value.str (letterName c)).IsCleanKey := by
    refine ⟨_, rfl, by simp [letterName], ?_, ?_⟩
    · simpa [letterName] using Ne.symm h.1
    · simpa [letterName] using Ne.symm h.2
  have hlist : (Value.list [.str (letterName 'x'), .map []]).HasCleanKeys := by
    refine .list (List.cons_ne_nil _ _) (List.forall_mem_cons.mpr ⟨.leaf rfl, ?_⟩)
    exact List.forall_mem_singleton.mpr (.leaf rfl)
  have hinner : (Value.map [(.str (letterName 'b'), .list [.str (letterName 'x'), .map []]),
      (.str (letterName 'c'), .list [])]).HasCleanKeys := by
    refine .map (List.cons_ne_nil _ _) (by simp [DistinctKeys, letterName]) ?_ ?_
    · refine List.forall_mem_cons.mpr ⟨hclean 'b' (by decide), ?_⟩
      exact List.forall_mem_singleton.mpr (hclean 'c' (by decide))
    · exact List.forall_mem_cons.mpr ⟨hlist, List.forall_mem_singleton.mpr (.leaf rfl)⟩
  exact .map (List.cons_ne_nil _ _) (List.pairwise_singleton _ _)
    (List.forall_mem_singleton.mpr (hclean 'a' (by decide))) (List.forall_mem_singleton.mpr hinner)

/-- Three leaves, two of them empty collections, and the way back. -/
theorem flatten_lossless_nested :
    (Value.map nestedExample).HasCleanKeys ∧
      ∃ t, flatten nestedExample "" = .ok t ∧
        t.entries =
          [(.str "a.b[0]", .str (letterName 'x')), (.str "a.b[1]", .map []),
            (.str "a.c", .list [])] ∧
        unflatten "" t = nestedExample := by
  obtain ⟨t, hflatten, hentries, -, -, hback, -⟩ :=
    flatten_lossless "" nestedExample hasCleanKeys_nestedExample
  refine ⟨hasCleanKeys_nestedExample, t, hflatten, ?_, hback⟩
  rw [hentries]
  rfl

end LiveConfig.Value
