import LiveConfig.Proofs.File.Path
import LiveConfig.Proofs.File.Source
import Mathlib.Data.List.Nodup
import Mathlib.Data.Prod.Lex
import Mathlib.Order.Bounds.Basic

/-!
# Which file takes precedence

A search goes through all pairs of a stem and a directory.  A pair has a rank: the position of its
stem, where the bare name comes before all profiles, and then the position of its directory.  The
pairs are visited from the highest rank down, so a path is found where its best pair stands, and
the files that are found are in the order of their best pairs.

The layer of all files answers for a key with its first child that holds the key.  That is the file
of the highest rank among those that define it.

**Results.**
* `FileSearch.Settled.keep`, `FileSearch.Settled.add`, `FileSearch.exists_findFrom`: what a search
  has settled, from pair to pair and up to its end.
* `FileSearch.precedence`: what is found, in which order, and what the loaded layer answers.
-/

namespace LiveConfig

/-- What a search for files depends on. -/
structure FileSearch where
  files : FileTree
  locations : List FilePath
  name : Text
  profiles : List Text

namespace FileSearch

/-! ## Ranks -/

/-- The position of a stem, and the position of a directory. -/
abbrev Rank := Nat ×ₗ Nat

/-- The stems of file names, of lowest precedence first: the bare name, then the profiles. -/
def stemsUpward (name : Text) (profiles : List Text) : List Text :=
  name :: profiles.map fun profile => name ++ "-" ++ profile

theorem stems_eq_reverse (name : Text) (profiles : List Text) :
    stems name profiles = (stemsUpward name profiles).reverse := by
  unfold stems stemsUpward
  rw [List.reverse_cons, List.map_reverse]

/-- A pair of a stem and a directory with its rank. -/
structure RankedPair where
  rank : Rank
  stem : Text
  location : FilePath

/-- All pairs with their ranks, of highest rank first. -/
def rankedPairs (search : FileSearch) : List RankedPair :=
  (stemsUpward search.name search.profiles).zipIdx.reverse.flatMap fun stem =>
    search.locations.zipIdx.reverse.map fun location =>
      ⟨toLex (stem.2, location.2), stem.1, location.1⟩

variable {search : FileSearch}

theorem map_rankedPairs :
    search.rankedPairs.map (fun pair => (pair.stem, pair.location)) =
      searchOrder search.locations search.name search.profiles := by
  have hstems : stems search.name search.profiles =
      (stemsUpward search.name search.profiles).zipIdx.reverse.map Prod.fst := by
    rw [List.map_reverse, List.zipIdx_map_fst, stems_eq_reverse]
  have hlocations : search.locations.reverse =
      search.locations.zipIdx.reverse.map Prod.fst := by
    rw [List.map_reverse, List.zipIdx_map_fst]
  unfold rankedPairs searchOrder
  rw [List.map_flatMap, hstems, hlocations, List.flatMap_map]
  simp only [List.map_map, Function.comp_def]

theorem mem_rankedPairs_iff {pair : RankedPair} :
    pair ∈ search.rankedPairs ↔
      (stemsUpward search.name search.profiles)[(ofLex pair.rank).1]? = some pair.stem ∧
      search.locations[(ofLex pair.rank).2]? = some pair.location := by
  unfold rankedPairs
  simp only [List.mem_flatMap, List.mem_map, List.mem_reverse]
  constructor
  · rintro ⟨⟨stem, i⟩, hstem, ⟨location, j⟩, hlocation, rfl⟩
    exact ⟨List.mem_zipIdx_iff_getElem?.mp hstem, List.mem_zipIdx_iff_getElem?.mp hlocation⟩
  · rintro ⟨hstem, hlocation⟩
    exact ⟨(pair.stem, _), List.mem_zipIdx_iff_getElem?.mpr hstem,
      (pair.location, _), List.mem_zipIdx_iff_getElem?.mpr hlocation, rfl⟩

/-- Positions fall along a list that is read from its end. -/
theorem pairwise_zipIdx_reverse {α : Type} (xs : List α) :
    xs.zipIdx.reverse.Pairwise fun x y => y.2 < x.2 := by
  rw [List.pairwise_reverse]
  have hrange := List.pairwise_lt_range' (s := 0) (n := xs.length)
  rw [← List.zipIdx_map_snd 0 xs] at hrange
  exact List.pairwise_map.mp hrange

theorem pairwise_rankedPairs :
    search.rankedPairs.Pairwise fun pair later => later.rank < pair.rank := by
  refine List.pairwise_flatMap.mpr ⟨fun stem _ => ?_, ?_⟩
  · -- one stem: the directories decide
    refine List.pairwise_map.mpr ((pairwise_zipIdx_reverse _).imp fun {location later} hlt => ?_)
    exact Prod.Lex.toLex_lt_toLex.mpr (.inr ⟨rfl, hlt⟩)
  · -- two stems: they decide, whatever the directories
    refine (pairwise_zipIdx_reverse _).imp fun {stem later} hlt => ?_
    intro pair hpair other hother
    obtain ⟨x, -, rfl⟩ := List.mem_map.mp hpair
    obtain ⟨y, -, rfl⟩ := List.mem_map.mp hother
    exact Prod.Lex.toLex_lt_toLex.mpr (.inl hlt)

/-! ## Choices -/

/-- The path that a stem and an ending have in a directory. -/
def candidate (stem : Text) (location : FilePath) (ending : String) : FilePath :=
  location.join (.ofText (stem ++ ending))

/-- The path that is chosen for a stem in a directory. -/
inductive IsChosen (files : FileTree) (stem : Text) (location : FilePath) : FilePath → Prop
  | yaml (h : files.isFile (candidate stem location ".yaml") = .ok true) :
    IsChosen files stem location (candidate stem location ".yaml")
  | yml (hyaml : files.isFile (candidate stem location ".yaml") = .ok false)
      (h : files.isFile (candidate stem location ".yml") = .ok true) :
    IsChosen files stem location (candidate stem location ".yml")

theorem fileOfStem?_eq (files : FileTree) (stem : Text) (location : FilePath) :
    fileOfStem? files stem location =
      files.isFile (candidate stem location ".yaml") >>= fun isYaml =>
        if isYaml then .ok (some (candidate stem location ".yaml"))
        else files.isFile (candidate stem location ".yml") >>= fun isYml =>
          .ok (if isYml then some (candidate stem location ".yml") else none) := by
  unfold fileOfStem?
  show firstFile? files [candidate stem location ".yaml", candidate stem location ".yml"] = _
  unfold firstFile?
  refine bind_congr fun isYaml => ?_
  cases isYaml
  · unfold firstFile?
    refine bind_congr fun isYml => ?_
    cases isYml <;> rfl
  · rfl

theorem isChosen_iff
    {files : FileTree} {stem : Text} {location : FilePath} {choice : Option FilePath}
    (h : fileOfStem? files stem location = .ok choice) (path : FilePath) :
    IsChosen files stem location path ↔ choice = some path := by
  rw [fileOfStem?_eq] at h
  constructor
  · rintro (hyaml | ⟨hyaml, hyml⟩)
    · rw [hyaml] at h
      exact (Except.ok.inj h).symm
    · rw [hyaml] at h
      simp only [Bool.false_eq_true, if_false, ok_bind, hyml] at h
      exact (Except.ok.inj h).symm
  · rintro rfl
    obtain ⟨isYaml, hyaml, hrest⟩ := exists_ok_of_bind h
    cases isYaml with
    | true =>
      obtain rfl := Option.some.inj (Except.ok.inj hrest)
      exact .yaml hyaml
    | false =>
      obtain ⟨isYml, hyml, hlast⟩ := exists_ok_of_bind hrest
      cases isYml with
      | true =>
        obtain rfl := Option.some.inj (Except.ok.inj hlast)
        exact .yml hyaml hyml
      | false => cases Except.ok.inj hlast

/-! ## Searching -/

/-- One of some pairs chooses a path; the rank is that of the pair. -/
def ChosenIn (files : FileTree) (pairs : List RankedPair) (path : FilePath) (rank : Rank) : Prop :=
  ∃ pair ∈ pairs, pair.rank = rank ∧ IsChosen files pair.stem pair.location path

/-- The rank of the best among some pairs that choose a path. -/
def IsBestIn (files : FileTree) (pairs : List RankedPair) (path : FilePath) (rank : Rank) : Prop :=
  IsGreatest {rank | ChosenIn files pairs path rank} rank

/-- What is found once some pairs are visited. -/
structure Settled (files : FileTree) (done : List RankedPair) (found : List FilePath) : Prop where
  nodup : found.Nodup
  mem_of_chosen : ∀ path rank, ChosenIn files done path rank → path ∈ found
  exists_best : ∀ path ∈ found, ∃ rank, IsBestIn files done path rank
  decreasing : found.Pairwise fun path lower => ∀ rank rank',
    IsBestIn files done path rank → IsBestIn files done lower rank' → rank' < rank

variable {files : FileTree} {done rest : List RankedPair} {pair : RankedPair}
  {found : List FilePath} {path : FilePath} {rank : Rank}

theorem settled_nil : Settled files [] [] where
  nodup := List.nodup_nil
  mem_of_chosen := fun _ _ ⟨_, hpair, _⟩ => nomatch hpair
  exists_best := fun _ hpath => nomatch hpath
  decreasing := List.Pairwise.nil

theorem chosenIn_concat_iff :
    ChosenIn files (done ++ [pair]) path rank ↔
      ChosenIn files done path rank ∨
        pair.rank = rank ∧ IsChosen files pair.stem pair.location path := by
  simp only [ChosenIn, List.mem_append, List.mem_singleton, or_and_right, exists_or,
    exists_eq_left]

/-- A pair of lower rank than all before does not matter to a path that is chosen already. -/
theorem isBestIn_concat_iff
    (hlower : ∀ before ∈ done, pair.rank < before.rank)
    (hchosen : ∃ rank, ChosenIn files done path rank) :
    IsBestIn files (done ++ [pair]) path rank ↔ IsBestIn files done path rank := by
  obtain ⟨known, hknown⟩ := hchosen
  have hlt {rank : Rank} (h : ChosenIn files done path rank) : pair.rank < rank := by
    obtain ⟨before, hbefore, rfl, -⟩ := h
    exact hlower before hbefore
  constructor
  · rintro ⟨hmem, hupper⟩
    have hupper' {rank' : Rank} (h : ChosenIn files done path rank') : rank' ≤ rank :=
      hupper (chosenIn_concat_iff.mpr (.inl h))
    refine ⟨?_, fun rank' h => hupper' h⟩
    rcases chosenIn_concat_iff.mp hmem with hold | ⟨rfl, -⟩
    · exact hold
    · exact absurd (hupper' hknown) (not_le_of_gt (hlt hknown))
  · rintro ⟨hmem, hupper⟩
    refine ⟨chosenIn_concat_iff.mpr (.inl hmem), fun rank' h => ?_⟩
    rcases chosenIn_concat_iff.mp h with hold | ⟨rfl, -⟩
    · exact hupper hold
    · exact (hlt hmem).le

theorem isBestIn_concat_of_new
    (hnew : ∀ rank, ¬ ChosenIn files done path rank) :
    IsBestIn files (done ++ [pair]) path rank ↔
      pair.rank = rank ∧ IsChosen files pair.stem pair.location path := by
  have honly {rank : Rank} : ChosenIn files (done ++ [pair]) path rank ↔
      pair.rank = rank ∧ IsChosen files pair.stem pair.location path :=
    chosenIn_concat_iff.trans (or_iff_right (hnew rank))
  constructor
  · rintro ⟨hmem, -⟩
    exact honly.mp hmem
  · intro h
    exact ⟨honly.mpr h, fun rank' h' => ((honly.mp h').1.symm.trans h.1).le⟩

namespace Settled

theorem exists_chosen (h : Settled files done found) (hpath : path ∈ found) :
    ∃ rank, ChosenIn files done path rank := by
  obtain ⟨rank, hbest⟩ := h.exists_best path hpath
  exact ⟨rank, hbest.1⟩

/-- The best pairs of what is found already stay the same, and so does their order. -/
theorem decreasing_concat
    (h : Settled files done found) (hlower : ∀ before ∈ done, pair.rank < before.rank) :
    found.Pairwise fun path lower => ∀ rank rank',
      IsBestIn files (done ++ [pair]) path rank → IsBestIn files (done ++ [pair]) lower rank' →
        rank' < rank := by
  refine h.decreasing.imp_of_mem fun hpath hother horder rank rank' hbest hbest' => ?_
  exact horder rank rank' ((isBestIn_concat_iff hlower (h.exists_chosen hpath)).mp hbest)
    ((isBestIn_concat_iff hlower (h.exists_chosen hother)).mp hbest')

/-- A pair that chooses nothing new. -/
theorem keep
    (h : Settled files done found) (hlower : ∀ before ∈ done, pair.rank < before.rank)
    (hknown : ∀ path, IsChosen files pair.stem pair.location path → path ∈ found) :
    Settled files (done ++ [pair]) found where
  nodup := h.nodup
  mem_of_chosen := by
    intro path rank hchosen
    rcases chosenIn_concat_iff.mp hchosen with hold | ⟨-, hpath⟩
    · exact h.mem_of_chosen path rank hold
    · exact hknown path hpath
  exists_best := by
    intro path hpath
    obtain ⟨rank, hbest⟩ := h.exists_best path hpath
    exact ⟨rank, (isBestIn_concat_iff hlower ⟨rank, hbest.1⟩).mpr hbest⟩
  decreasing := h.decreasing_concat hlower

/-- A pair that chooses a new path. -/
theorem add
    (h : Settled files done found) (hlower : ∀ before ∈ done, pair.rank < before.rank)
    (hchosen : ∀ other, IsChosen files pair.stem pair.location other ↔ path = other)
    (hnew : path ∉ found) : Settled files (done ++ [pair]) (found ++ [path]) := by
  have hpath : IsChosen files pair.stem pair.location path := (hchosen path).mpr rfl
  have hunchosen (rank : Rank) : ¬ ChosenIn files done path rank :=
    mt (h.mem_of_chosen path rank) hnew
  constructor
  case nodup =>
    refine List.nodup_append.mpr ⟨h.nodup, List.nodup_singleton path, ?_⟩
    rintro other hother last hlast rfl
    exact hnew (List.mem_singleton.mp hlast ▸ hother)
  case mem_of_chosen =>
    intro other rank hother
    rcases chosenIn_concat_iff.mp hother with hold | ⟨-, hsame⟩
    · exact List.mem_append_left _ (h.mem_of_chosen other rank hold)
    · exact List.mem_append_right _ (List.mem_singleton.mpr ((hchosen other).mp hsame).symm)
  case exists_best =>
    intro other hother
    rcases List.mem_append.mp hother with hold | hsame
    · obtain ⟨rank, hbest⟩ := h.exists_best other hold
      exact ⟨rank, (isBestIn_concat_iff hlower ⟨rank, hbest.1⟩).mpr hbest⟩
    · obtain rfl := List.mem_singleton.mp hsame
      exact ⟨pair.rank, (isBestIn_concat_of_new hunchosen).mpr ⟨rfl, hpath⟩⟩
  case decreasing =>
    refine List.pairwise_append.mpr
      ⟨h.decreasing_concat hlower, List.pairwise_singleton _ _, ?_⟩
    -- what was found before was chosen by a pair that was visited before
    intro other hother last hlast rank rank' hbest hbest'
    obtain rfl := List.mem_singleton.mp hlast
    obtain ⟨rfl, -⟩ := (isBestIn_concat_of_new hunchosen).mp hbest'
    have hold := (isBestIn_concat_iff hlower (h.exists_chosen hother)).mp hbest
    obtain ⟨before, hbefore, rfl, -⟩ := hold.1
    exact hlower before hbefore

end Settled

/-- A search that has settled some pairs goes on to its end if no check of a file fails. -/
theorem exists_findFrom
    (hsorted : (done ++ rest).Pairwise fun pair later => later.rank < pair.rank)
    (hchecks : ∀ pair ∈ rest, ∃ choice, fileOfStem? files pair.stem pair.location = .ok choice)
    (h : Settled files done found) :
    ∃ last, findFrom files found (rest.map fun pair => (pair.stem, pair.location)) = .ok last ∧
      Settled files (done ++ rest) last := by
  induction rest generalizing done found with
  | nil => exact ⟨found, rfl, by rwa [List.append_nil]⟩
  | cons pair rest ih =>
    obtain ⟨⟨choice, hchoice⟩, hrest⟩ := List.forall_mem_cons.mp hchecks
    have hlower : ∀ before ∈ done, pair.rank < before.rank := fun before hbefore =>
      (List.pairwise_append.mp hsorted).2.2 before hbefore pair List.mem_cons_self
    have hchosen := isChosen_iff hchoice
    rw [List.append_cons] at hsorted ⊢
    rw [List.map_cons, findFrom, hchoice, ok_bind]
    cases choice with
    | none =>
      exact ih hsorted hrest (h.keep hlower fun path hpath => nomatch (hchosen path).mp hpath)
    | some path =>
      show ∃ last, findFrom files (if found.contains path then found else found ++ [path]) _ = _ ∧ _
      by_cases hmem : path ∈ found
      · have hkeep := h.keep hlower fun other hother =>
          Option.some.inj ((hchosen other).mp hother) ▸ hmem
        rw [if_pos (List.contains_iff_mem.mpr hmem)]
        exact ih hsorted hrest hkeep
      · have hadd := h.add hlower (fun other => (hchosen other).trans Option.some_inj) hmem
        rw [if_neg (mt List.contains_iff_mem.mp hmem)]
        exact ih hsorted hrest hadd

/-! ## What is found -/

/-- The pair of a rank chooses a path. -/
def Chooses (search : FileSearch) (rank : Rank) (path : FilePath) : Prop :=
  ∃ stem location, (stemsUpward search.name search.profiles)[(ofLex rank).1]? = some stem ∧
    search.locations[(ofLex rank).2]? = some location ∧ IsChosen search.files stem location path

/-- The rank of the best pair that chooses a path. -/
def IsRankOf (search : FileSearch) (path : FilePath) (rank : Rank) : Prop :=
  IsGreatest {rank | search.Chooses rank path} rank

/-- The found paths are those that are chosen, each once, in falling order of their ranks. -/
structure Finds (search : FileSearch) (found : List FilePath) : Prop where
  nodup : found.Nodup
  mem_iff : ∀ path, path ∈ found ↔ ∃ rank, search.Chooses rank path
  exists_rank : ∀ path ∈ found, ∃ rank, search.IsRankOf path rank
  decreasing : found.Pairwise fun path lower => ∀ rank rank',
    search.IsRankOf path rank → search.IsRankOf lower rank' → rank' < rank

theorem chosenIn_rankedPairs_iff :
    ChosenIn search.files search.rankedPairs path rank ↔ search.Chooses rank path := by
  constructor
  · rintro ⟨pair, hpair, rfl, hchosen⟩
    obtain ⟨hstem, hlocation⟩ := mem_rankedPairs_iff.mp hpair
    exact ⟨pair.stem, pair.location, hstem, hlocation, hchosen⟩
  · rintro ⟨stem, location, hstem, hlocation, hchosen⟩
    exact ⟨⟨rank, stem, location⟩, mem_rankedPairs_iff.mpr ⟨hstem, hlocation⟩, rfl, hchosen⟩

theorem isBestIn_rankedPairs_iff :
    IsBestIn search.files search.rankedPairs path rank ↔ search.IsRankOf path rank := by
  unfold IsBestIn IsRankOf
  simp only [chosenIn_rankedPairs_iff]

theorem Settled.finds (h : Settled search.files search.rankedPairs found) : search.Finds found where
  nodup := h.nodup
  mem_iff path := by
    constructor
    · intro hpath
      obtain ⟨rank, hchosen⟩ := h.exists_chosen hpath
      exact ⟨rank, chosenIn_rankedPairs_iff.mp hchosen⟩
    · rintro ⟨rank, hchosen⟩
      exact h.mem_of_chosen path rank (chosenIn_rankedPairs_iff.mpr hchosen)
  exists_rank path hpath := by
    obtain ⟨rank, hbest⟩ := h.exists_best path hpath
    exact ⟨rank, isBestIn_rankedPairs_iff.mp hbest⟩
  decreasing := by
    simpa only [isBestIn_rankedPairs_iff] using h.decreasing

/-- No check of a file fails that the search makes. -/
def ChecksSucceed (search : FileSearch) : Prop :=
  ∀ stem ∈ stems search.name search.profiles, ∀ location ∈ search.locations,
    ∃ choice, fileOfStem? search.files stem location = .ok choice

theorem ChecksSucceed.exists_finds (h : search.ChecksSucceed) :
    ∃ found, findConfigFiles search.files search.locations search.name search.profiles = .ok found ∧
      search.Finds found := by
  have hchecks : ∀ pair ∈ search.rankedPairs,
      ∃ choice, fileOfStem? search.files pair.stem pair.location = .ok choice := by
    intro pair hpair
    obtain ⟨hstem, hlocation⟩ := mem_rankedPairs_iff.mp hpair
    refine h pair.stem ?_ pair.location (List.mem_of_getElem? hlocation)
    rw [stems_eq_reverse]
    exact List.mem_reverse.mpr (List.mem_of_getElem? hstem)
  have hsorted : ([] ++ search.rankedPairs).Pairwise
      fun (pair later : RankedPair) => later.rank < pair.rank := pairwise_rankedPairs
  obtain ⟨found, hfound, hsettled⟩ := exists_findFrom hsorted hchecks settled_nil
  rw [map_rankedPairs] at hfound
  exact ⟨found, hfound, hsettled.finds⟩

/-! ## The layer of what is found -/

/-- The layers of files with their entries. -/
def layersOf (loaded : List (FilePath × Entries)) : List Layer :=
  loaded.map fun file => Layer.ofEntries (fileLayerName file.1) file.2

theorem run_loadLayers
    {paths : List FilePath} {contents : List Entries} {d after : Desk}
    (h : (paths.mapM loadFile).run d = (.ok contents, after)) :
    contents.length = paths.length ∧
      (loadLayers paths).run d = (.ok (layersOf (paths.zip contents)), after) := by
  induction paths generalizing contents d with
  | nil =>
    obtain ⟨hcontents, hafter⟩ := Prod.mk.inj h
    obtain rfl := Except.ok.inj hcontents
    obtain rfl := hafter
    exact ⟨rfl, rfl⟩
  | cons path paths ih =>
    rw [List.mapM_cons] at h
    obtain ⟨entries, middle, hfile, hrest⟩ := exists_run_of_bind h
    obtain ⟨others, last, hothers, hpure⟩ := exists_run_of_bind hrest
    obtain ⟨hcontents, hlast⟩ := Prod.mk.inj hpure
    obtain rfl : entries :: others = contents := Except.ok.inj hcontents
    obtain rfl : last = after := hlast
    obtain ⟨hlength, hlayers⟩ := ih hothers
    refine ⟨congrArg Nat.succ hlength, ?_⟩
    rw [loadLayers, run_bind_of_ok hfile, run_bind_of_ok hlayers]
    rfl

theorem findIn?_layersOf (key : Text) (loaded : List (FilePath × Entries)) :
    Layer.findIn? (.str key) (layersOf loaded) =
      .ok (loaded.findSome? fun file => file.2.get? (.str key)) := by
  induction loaded with
  | nil => rfl
  | cons file loaded ih =>
    have hread : Layer.find? (.str key) (Layer.ofEntries (fileLayerName file.1) file.2) =
        .ok (file.2.get? (.str key)) := rfl
    rw [layersOf, List.map_cons, Layer.findIn?, hread, List.findSome?_cons]
    cases file.2.get? (.str key) with
    | none => exact ih
    | some v => rfl

/--
What the file of the highest rank has for a key, among the loaded files that hold it, or a default
if none does.
-/
inductive IsHighest (search : FileSearch) (loaded : List (FilePath × Entries))
    (key default : Value) : Value → Prop
  | held {path : FilePath} {entries : Entries} {v : Value}
      (hmem : (path, entries) ∈ loaded) (hvalue : entries.get? key = some v)
      (highest : ∀ other entries', (other, entries') ∈ loaded → entries'.get? key ≠ none →
        ∀ rank rank', search.IsRankOf path rank → search.IsRankOf other rank' → rank' ≤ rank) :
      IsHighest search loaded key default v
  | absent (h : ∀ path entries, (path, entries) ∈ loaded → entries.get? key = none) :
      IsHighest search loaded key default default

/-- The first of the found files that holds a key is the one of highest rank. -/
theorem Finds.isHighest_findSome?
    (h : search.Finds found) {contents : List Entries} (hlength : contents.length = found.length)
    (key default : Value) :
    search.IsHighest (found.zip contents) key default
      (((found.zip contents).findSome? fun file => file.2.get? key).getD default) := by
  have horder : (found.zip contents).Pairwise fun file lower => ∀ rank rank',
      search.IsRankOf file.1 rank → search.IsRankOf lower.1 rank' → rank' < rank := by
    have hpaths := h.decreasing
    rw [← List.map_fst_zip hlength.ge] at hpaths
    exact List.pairwise_map.mp hpaths
  cases hfirst : (found.zip contents).findSome? fun file => file.2.get? key with
  | none =>
    exact .absent fun path entries hmem => List.findSome?_eq_none_iff.mp hfirst (path, entries) hmem
  | some v =>
    obtain ⟨before, ⟨path, entries⟩, later, hsplit, hvalue, hbefore⟩ :=
      List.findSome?_eq_some_iff.mp hfirst
    have hmem : (path, entries) ∈ found.zip contents := by
      rw [hsplit]
      exact List.mem_append_right _ List.mem_cons_self
    refine .held hmem hvalue fun other entries' hother hheld rank rank' hrank hrank' => ?_
    rw [hsplit] at hother horder
    rcases List.mem_append.mp hother with hmem' | hmem'
    · exact absurd (hbefore _ hmem') hheld
    · rcases List.mem_cons.mp hmem' with hsame | hlater
      · obtain ⟨rfl, -⟩ := Prod.mk.inj hsame
        exact (hrank'.unique hrank).le
      · have hbelow := (List.pairwise_cons.mp (List.pairwise_append.mp horder).2.1).1
        exact (hbelow _ hlater rank rank' hrank hrank').le

/-! ## The names of the layers -/

theorem fileLayerName_inj
    {path other : FilePath} (h : path.IsNormal) (h' : other.IsNormal) :
    fileLayerName path = fileLayerName other ↔ path = other := by
  constructor
  · intro hname
    unfold fileLayerName at hname
    have hpoints := congrArg Text.points hname
    simp only [Text.append_points, List.append_cancel_left_eq,
      List.append_cancel_right_eq] at hpoints
    exact (FilePath.text_inj h h').mp (congrArg Text.mk hpoints)
  · exact congrArg fileLayerName

theorem IsChosen.isNormal
    {files : FileTree} {stem : Text} {location path : FilePath}
    (h : IsChosen files stem location path) (hlocation : location.IsNormal) : path.IsNormal := by
  cases h with
  | yaml => exact hlocation.join (FilePath.isNormal_ofText _)
  | yml => exact hlocation.join (FilePath.isNormal_ofText _)

theorem isNormal_of_locationsOf
    {v : Value} {locations : List FilePath} (h : FileSource.locationsOf v = .ok locations) :
    ∀ location ∈ locations, location.IsNormal := by
  intro location hlocation
  obtain ⟨members, -, hmapped⟩ := exists_ok_of_bind h
  obtain ⟨member, -, hmember⟩ := exists_mem_of_mapM_ok hmapped hlocation
  unfold FileSource.locationOf at hmember
  split at hmember
  · obtain rfl := Except.ok.inj hmember
    exact FilePath.isNormal_ofText _
  · cases hmember
  · cases hmember

theorem isNormal_of_resolveLocations
    {source : FileSource} {env : Environment} {locations : List FilePath}
    (hsource : ∀ location ∈ source.locations, location.IsNormal)
    (h : source.resolveLocations env = .ok locations) :
    ∀ location ∈ locations, location.IsNormal := by
  rw [FileSource.resolveLocations_eq] at h
  obtain ⟨v, -, hv⟩ := exists_ok_of_bind h
  unfold FileSource.locationsBy at hv
  split at hv
  · obtain rfl := Except.ok.inj hv
    exact hsource
  · split at hv
    · obtain rfl := Except.ok.inj hv
      exact hsource
    · exact isNormal_of_locationsOf hv
  · cases hv
  · exact isNormal_of_locationsOf hv

/-- A source makes this search in an environment; its own directories are made from texts. -/
structure IsMadeBy (search : FileSearch) (source : FileSource) (env : Environment) (d : Desk) :
    Prop where
  isNormal : ∀ location ∈ source.locations, location.IsNormal
  files_eq : d.files = search.files
  locations_eq : source.resolveLocations env = .ok search.locations
  name_eq : source.resolveName env = .ok search.name
  profiles_eq : env.effectiveProfiles = search.profiles

theorem IsMadeBy.isNormal_of_chooses
    {source : FileSource} {env : Environment} {d : Desk} (h : search.IsMadeBy source env d)
    (hchooses : search.Chooses rank path) : path.IsNormal := by
  obtain ⟨stem, location, -, hlocation, hchosen⟩ := hchooses
  exact hchosen.isNormal
    (isNormal_of_resolveLocations h.isNormal h.locations_eq location
      (List.mem_of_getElem? hlocation))

theorem map_name_layersOf (loaded : List (FilePath × Entries)) :
    (layersOf loaded).map Layer.name = (loaded.map Prod.fst).map fileLayerName := by
  unfold layersOf
  rw [List.map_map, List.map_map]
  rfl

/-- Different files have layers of different names. -/
theorem IsMadeBy.nodup_names
    {source : FileSource} {env : Environment} {d : Desk} (h : search.IsMadeBy source env d)
    (hfinds : search.Finds found) {contents : List Entries}
    (hlength : contents.length = found.length) :
    ((layersOf (found.zip contents)).map Layer.name).Nodup := by
  rw [map_name_layersOf, List.map_fst_zip hlength.ge]
  refine List.Nodup.map_on (fun path hpath other hother hname => ?_) hfinds.nodup
  obtain ⟨rank, hchooses⟩ := (hfinds.mem_iff path).mp hpath
  obtain ⟨rank', hchooses'⟩ := (hfinds.mem_iff other).mp hother
  exact (fileLayerName_inj (h.isNormal_of_chooses hchooses)
    (h.isNormal_of_chooses hchooses')).mp hname

/-- What a source loads are the files that it finds. -/
theorem IsMadeBy.run_loadLayer
    {source : FileSource} {env : Environment} {d after : Desk} (h : search.IsMadeBy source env d)
    (hfound : findConfigFiles search.files search.locations search.name search.profiles = .ok found)
    {contents : List Entries} (hload : (found.mapM loadFile).run d = (.ok contents, after)) :
    ((source.loadLayer env).run d).1 =
      .ok (Layer.ofChildren Names.applicationConfig (layersOf (found.zip contents))) := by
  have hresolve : source.resolveFiles env d.files = .ok found := by
    unfold FileSource.resolveFiles
    rw [h.locations_eq, h.name_eq, h.profiles_eq, h.files_eq]
    exact hfound
  unfold FileSource.loadLayer
  rw [run_bind_of_ok (run_get d), hresolve]
  have hpaths : (Loading.ofExcept (.ok found)).run d = (.ok found, d) := rfl
  rw [run_bind_of_ok hpaths, run_bind_of_ok (run_loadLayers hload).2]
  rfl

/--
A search in which no check of a file fails finds the chosen paths in falling order of their ranks.
If all these files load, the children of the loaded layer have different names, and the layer
answers for each key with the file of the highest rank that defines it.
-/
theorem precedence (hchecks : search.ChecksSucceed) :
    ∃ found,
      findConfigFiles search.files search.locations search.name search.profiles = .ok found ∧
      search.Finds found ∧
      ∀ (source : FileSource) (env : Environment) (d after : Desk) (contents : List Entries),
        search.IsMadeBy source env d → (found.mapM loadFile).run d = (.ok contents, after) →
        contents.length = found.length ∧
        ∃ children : List Layer,
          ((source.loadLayer env).run d).1 =
            .ok (Layer.ofChildren Names.applicationConfig children) ∧
          (children.map Layer.name).Nodup ∧
          ∀ (key : Text) (default : Value), ∃ v,
            (Layer.ofChildren Names.applicationConfig children).get (.str key) default = .ok v ∧
            search.IsHighest (found.zip contents) (.str key) default v := by
  obtain ⟨found, hfound, hfinds⟩ := hchecks.exists_finds
  refine ⟨found, hfound, hfinds, fun source env d after contents hmade hload => ?_⟩
  have hlength := (run_loadLayers hload).1
  refine ⟨hlength, layersOf (found.zip contents), hmade.run_loadLayer hfound hload,
    hmade.nodup_names hfinds hlength, fun key default => ?_⟩
  refine ⟨_, ?_, hfinds.isHighest_findSome? hlength (.str key) default⟩
  unfold Layer.get Layer.ofChildren
  rw [Layer.find?, findIn?_layersOf]
  rfl

/-- A file for the bare name and one for a profile, and a directory that is not there. -/
def profileSearch : FileSearch :=
  let bytes (s : String) : List UInt8 := s.toList.map fun c => c.toNat.toUInt8
  { files := ⟨Table.ofList
      [(⟨"", [bytes "application.yaml"]⟩, .file (bytes "x: 1")),
        (⟨"", [bytes "application-dev.yml"]⟩, .file (bytes "x: 2"))], Table.empty⟩
    locations := [.ofText ".", .ofText "config"]
    name := Names.defaultConfigName
    profiles := ["dev"] }

/-- The file of the profile comes first. -/
theorem precedence_profile :
    profileSearch.ChecksSucceed ∧
    ∃ found contents children after v,
      found = [FilePath.ofText "application-dev.yml", FilePath.ofText "application.yaml"] ∧
      profileSearch.Finds found ∧
      (found.mapM loadFile).run (Desk.ofFiles profileSearch.files) = (.ok contents, after) ∧
      ((FileSource.loadLayer ⟨profileSearch.locations, profileSearch.name⟩
        ⟨LayerStack.empty, profileSearch.profiles, []⟩).run (Desk.ofFiles profileSearch.files)).1 =
          .ok (Layer.ofChildren Names.applicationConfig children) ∧
      (children.map Layer.name).Nodup ∧
      (Layer.ofChildren Names.applicationConfig children).get (.str "x") .null = .ok v ∧
      profileSearch.IsHighest (found.zip contents) (.str "x") .null v := by
  have hisOk : ∀ stem ∈ stems profileSearch.name profileSearch.profiles,
      ∀ location ∈ profileSearch.locations,
        (fileOfStem? profileSearch.files stem location).isOk = true := by
    decide +kernel
  have hchecks : profileSearch.ChecksSucceed := fun stem hstem location hlocation => by
    have hok := hisOk stem hstem location hlocation
    cases hchoice : fileOfStem? profileSearch.files stem location with
    | ok choice => exact ⟨choice, rfl⟩
    | error failure =>
      rw [hchoice] at hok
      cases hok
  obtain ⟨found, hfound, hfinds, hload⟩ := precedence hchecks
  have hpaths : (findConfigFiles profileSearch.files profileSearch.locations profileSearch.name
      profileSearch.profiles).toOption =
      some [FilePath.ofText "application-dev.yml", FilePath.ofText "application.yaml"] := by
    decide +kernel
  rw [hfound] at hpaths
  obtain rfl := Option.some.inj hpaths
  have hloads : (([FilePath.ofText "application-dev.yml",
      FilePath.ofText "application.yaml"].mapM loadFile).run
        (Desk.ofFiles profileSearch.files)).1.isOk = true := by
    decide +kernel
  rcases hrun : ([FilePath.ofText "application-dev.yml",
      FilePath.ofText "application.yaml"].mapM loadFile).run
        (Desk.ofFiles profileSearch.files) with ⟨failure | contents, after⟩
  · rw [hrun] at hloads
    cases hloads
  · have hmade : profileSearch.IsMadeBy ⟨profileSearch.locations, profileSearch.name⟩
        ⟨LayerStack.empty, profileSearch.profiles, []⟩ (Desk.ofFiles profileSearch.files) := by
      refine ⟨fun location hlocation => ?_, rfl, rfl, rfl, rfl⟩
      rcases List.mem_pair.mp hlocation with rfl | rfl
      · exact FilePath.isNormal_ofText _
      · exact FilePath.isNormal_ofText _
    obtain ⟨-, children, hlayer, hnames, hget⟩ := hload _ _ _ _ _ hmade hrun
    obtain ⟨v, hv, hhighest⟩ := hget "x" .null
    exact ⟨hchecks, _, contents, children, after, v, rfl, hfinds, hrun, hlayer, hnames, hv,
      hhighest⟩

end FileSearch

end LiveConfig
