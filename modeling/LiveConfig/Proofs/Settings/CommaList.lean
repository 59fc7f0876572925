import LiveConfig.Proofs.File.Path
import LiveConfig.Proofs.File.Source
import LiveConfig.Settings.Basic
import Mathlib.Data.List.DropRight

/-!
# Comma-separated lists

A text that stands for a list is cut at its commas.  The parts are stripped, and those that are then
empty are left out.  What is left are *items*: they are not empty, hold no comma, and neither start
nor end with a blank.  The way back is not unique, since blanks may stand around the items and parts
of blanks between them (`Spread`).

Settings and sources cut such texts at different times, the one before a path is made of a part and
the other when the directories are looked up.  Both come to the same list.

**Results.**
* `Text.isItem_of_mem_commaList`: a text gives items only.
* `Text.commaList_joined`: items that are spread out and joined are given back.
* `FileSource.commaLists_agree`: settings and sources read the same list.
-/

namespace LiveConfig

namespace Text

/-! ## Stripping -/

/-- A text of nothing but blanks, which may be empty. -/
def IsBlankText (t : Text) : Prop :=
  ∀ p ∈ t.points, isBlankPoint p = true

/-- Neither the first nor the last code point is a blank. -/
structure HasBareEnds (points : List CodePoint) : Prop where
  head_ne : ∀ p ∈ points.head?, isBlankPoint p = false
  last_ne : ∀ p ∈ points.getLast?, isBlankPoint p = false

theorem strip_points (t : Text) :
    t.strip.points = (t.points.dropWhile isBlankPoint).rdropWhile isBlankPoint := rfl

theorem IsBlankText.strip_eq {t : Text} (h : t.IsBlankText) : t.strip = ⟨[]⟩ := by
  have hall : t.points.dropWhile isBlankPoint = [] := List.dropWhile_eq_nil_iff.mpr h
  have hpoints : t.strip.points = [] := by
    rw [strip_points, hall, List.rdropWhile_nil]
  exact congrArg Text.mk hpoints

/-- Blanks in front of what starts otherwise are dropped. -/
theorem dropWhile_blanks_append
    {before points : List CodePoint} (hbefore : ∀ p ∈ before, isBlankPoint p = true)
    (h : ∀ p ∈ points.head?, isBlankPoint p = false) :
    (before ++ points).dropWhile isBlankPoint = points := by
  rw [List.dropWhile_append_of_pos hbefore]
  cases points with
  | nil => rfl
  | cons p points => exact List.dropWhile_cons_of_neg (by simp [h p rfl])

/-- Blanks behind what ends otherwise are dropped. -/
theorem rdropWhile_append_blanks
    {points after : List CodePoint} (hafter : ∀ p ∈ after, isBlankPoint p = true)
    (h : ∀ p ∈ points.getLast?, isBlankPoint p = false) :
    (points ++ after).rdropWhile isBlankPoint = points := by
  have hreversed : (after.reverse ++ points.reverse).dropWhile isBlankPoint = points.reverse :=
    dropWhile_blanks_append (fun p hp => hafter p (List.mem_reverse.mp hp))
      (by rwa [List.head?_reverse])
  rw [List.rdropWhile, List.reverse_append, hreversed, List.reverse_reverse]

/-- Stripping takes away the blanks around what has bare ends. -/
theorem strip_around
    {before item after : Text} (hbefore : before.IsBlankText) (hafter : after.IsBlankText)
    (hne : item.points ≠ []) (h : HasBareEnds item.points) :
    (before ++ item ++ after).strip = item := by
  have hhead : ∀ p ∈ (item.points ++ after.points).head?, isBlankPoint p = false := by
    rw [List.head?_append_of_ne_nil _ hne]
    exact h.head_ne
  have hpoints : (before ++ item ++ after).strip.points = item.points := by
    rw [strip_points, append_points, append_points, List.append_assoc,
      dropWhile_blanks_append hbefore hhead, rdropWhile_append_blanks hafter h.last_ne]
  exact congrArg Text.mk hpoints

theorem hasBareEnds_strip (t : Text) : HasBareEnds t.strip.points := by
  rw [strip_points]
  constructor
  · intro p hp
    -- dropping blanks at the end keeps the first code point, if there is one left
    obtain ⟨tail, htail⟩ :=
      List.rdropWhile_prefix isBlankPoint (t.points.dropWhile isBlankPoint)
    have hhead : (t.points.dropWhile isBlankPoint).head? = some p := by
      rw [← htail, List.head?_append, Option.mem_def.mp hp]
      rfl
    have hnot := List.head?_dropWhile_not isBlankPoint t.points
    rw [hhead] at hnot
    simpa using hnot
  · intro p hp
    have hne : (t.points.dropWhile isBlankPoint).rdropWhile isBlankPoint ≠ [] := by
      intro hnil
      rw [hnil] at hp
      cases hp
    have hlast := List.rdropWhile_last_not isBlankPoint _ hne
    rw [List.getLast?_eq_some_getLast hne] at hp
    rw [← Option.some.inj hp]
    simpa using hlast

theorem mem_of_mem_strip {t : Text} {p : CodePoint} (h : p ∈ t.strip.points) : p ∈ t.points := by
  rw [strip_points] at h
  exact (List.dropWhile_sublist _).mem ((List.rdropWhile_prefix _ _).mem h)

/-! ## Items -/

/-- An item of a list: not empty, without commas, and without blanks at its ends. -/
structure IsItem (item : Text) : Prop where
  ne_nil : item.points ≠ []
  no_comma : .char ',' ∉ item.points
  bareEnds : HasBareEnds item.points

/-- Everything that a text gives is an item. -/
theorem isItem_of_mem_commaList {s item : Text} (h : item ∈ commaList s) : item.IsItem := by
  obtain ⟨hmem, hkept⟩ := List.mem_filter.mp h
  obtain ⟨part, hpart, rfl⟩ := List.mem_map.mp hmem
  obtain ⟨points, hpoints, rfl⟩ := List.mem_map.mp hpart
  refine ⟨fun hnil => ?_, fun hcomma => ?_, hasBareEnds_strip _⟩
  · simp [isEmpty, hnil] at hkept
  · exact not_mem_of_mem_partsAt hpoints (mem_of_mem_strip hcomma)

/--
Parts that stand for some items: each item in order with blanks around it, and parts of blanks, or
empty ones, anywhere between.
-/
inductive Spread : List Text → List Text → Prop
  | nil : Spread [] []
  | blank {items parts : List Text} {part : Text} (hpart : part.IsBlankText)
      (hrest : Spread items parts) : Spread items (part :: parts)
  | item {items parts : List Text} {before item after : Text} (hbefore : before.IsBlankText)
      (hafter : after.IsBlankText) (hrest : Spread items parts) :
      Spread (item :: items) ((before ++ item ++ after) :: parts)

theorem IsBlankText.no_comma {t : Text} (h : t.IsBlankText) : .char ',' ∉ t.points := by
  intro hmem
  have hcomma := h _ hmem
  revert hcomma
  decide

variable {items parts : List Text}

theorem Spread.no_comma (h : Spread items parts) (hitems : ∀ item ∈ items, item.IsItem) :
    ∀ part ∈ parts, .char ',' ∉ part.points := by
  induction h with
  | nil => exact List.forall_mem_nil _
  | blank hpart _ ih => exact List.forall_mem_cons.mpr ⟨hpart.no_comma, ih hitems⟩
  | item hbefore hafter _ ih =>
    obtain ⟨hitem, hrest⟩ := List.forall_mem_cons.mp hitems
    refine List.forall_mem_cons.mpr ⟨?_, ih hrest⟩
    simp [hbefore.no_comma, hitem.no_comma, hafter.no_comma]

/-- The items are what is left of the stripped parts. -/
theorem Spread.filter_strip (h : Spread items parts) (hitems : ∀ item ∈ items, item.IsItem) :
    (parts.map strip).filter (fun item => !item.isEmpty) = items := by
  induction h with
  | nil => rfl
  | blank hpart _ ih =>
    rw [List.map_cons, hpart.strip_eq, List.filter_cons]
    exact ih hitems
  | item hbefore hafter _ ih =>
    obtain ⟨hitem, hrest⟩ := List.forall_mem_cons.mp hitems
    rw [List.map_cons, strip_around hbefore hafter hitem.ne_nil hitem.bareEnds, List.filter_cons,
      ih hrest]
    simp [isEmpty, hitem.ne_nil]

/-- Items that are joined are spread out with nothing around them. -/
theorem spread_self (items : List Text) : Spread items items := by
  induction items with
  | nil => exact .nil
  | cons item items ih =>
    have hempty : IsBlankText ⟨[]⟩ := List.forall_mem_nil _
    have hself : (⟨[]⟩ : Text) ++ item ++ ⟨[]⟩ = item :=
      congrArg Text.mk (by rw [append_points, List.append_nil]; rfl)
    have hitem : Spread (item :: items) (((⟨[]⟩ : Text) ++ item ++ ⟨[]⟩) :: items) :=
      .item hempty hempty ih
    rwa [hself] at hitem

/-- Parts without commas that are joined come apart again. -/
theorem split_joined {part : Text} (h : ∀ t ∈ part :: parts, .char ',' ∉ t.points) :
    split ',' (joined "," (part :: parts)) = part :: parts := by
  have hpoints : ∀ ps ∈ part.points :: parts.map Text.points, CodePoint.char ',' ∉ ps := by
    intro ps hmem
    obtain ⟨t, ht, rfl⟩ := List.mem_map.mp (List.map_cons ▸ hmem)
    exact h t ht
  have hmk : (part.points :: parts.map Text.points).map Text.mk = part :: parts := by
    rw [List.map_cons, List.map_map]
    exact congrArg (part :: ·) (List.map_id parts)
  show (partsAt _ ([CodePoint.char ','].intercalate (part.points :: parts.map Text.points))).map _ =
    _
  rw [partsAt_intercalate hpoints, hmk]

/-- However items are spread out, a text that is joined from the parts gives them back. -/
theorem commaList_joined (h : Spread items parts) (hitems : ∀ item ∈ items, item.IsItem) :
    commaList (joined "," parts) = items := by
  cases parts with
  | nil =>
    cases h
    rfl
  | cons part parts =>
    rw [commaList, split_joined (h.no_comma hitems)]
    exact h.filter_strip hitems

end Text

/-! ## Who reads lists -/

namespace Checked

/-- Where every text passes its check, all of them do. -/
theorem all_texts
    {α : Type} {check : Nat → Value → Checked α} {f : Text → α}
    (h : ∀ i s, check i (.str s) = .ok (f s)) (i : Nat) (texts : List Text) :
    all check i (texts.map Value.str) = .ok (texts.map f) := by
  induction texts generalizing i with
  | nil => rfl
  | cons s texts ih => rw [List.map_cons, all, h, ih, List.map_cons]

end Checked

namespace Settings

theorem listOf_texts (name : String) (default : List Text) (s : Text) :
    listOf name (textMember name) default (some (.str s)) = .ok (Text.commaList s) :=
  (Checked.all_texts (f := id) (fun _ _ => rfl) 0 _).trans (by rw [List.map_id])

theorem listOf_paths (name : String) (default : List FilePath) (s : Text) :
    listOf name (pathMember name) default (some (.str s)) =
      .ok ((Text.commaList s).map FilePath.ofText) :=
  Checked.all_texts (f := FilePath.ofText) (fun _ _ => rfl) 0 _

end Settings

namespace FileSource

theorem mapM_locationOf (texts : List Text) :
    (texts.map Value.str).mapM locationOf = .ok (texts.map FilePath.ofText) := by
  induction texts with
  | nil => rfl
  | cons s texts ih =>
    rw [List.map_cons, List.mapM_cons, ih]
    rfl

/-- The directories set by a text are those of its list. -/
theorem locationsOf_text (s : Text) :
    locationsOf (.str s) = .ok ((Text.commaList s).map FilePath.ofText) := by
  have hkept (texts : List Text) :
      (texts.map Value.str).filter Value.isTruthy =
        (texts.filter fun t => !t.isEmpty).map Value.str := List.filter_map
  have hmembers : locationMembers (.str s) =
      .ok (((Text.split ',' s).map Text.strip).map Value.str) := by
    rw [List.map_map]
    rfl
  unfold locationsOf
  rw [hmembers, ok_bind, hkept]
  exact mapM_locationOf _

/--
**Comma-separated lists are read alike and survive being written.**  A text gives items only, and
they are given back by the text that joins them.  Any items are given back by any text that joins
them with blanks around them and blank or empty parts between.  Settings of texts and of directories
read this list, and a source whose directories are configured by a text that is not empty searches
the directories of the same list, in order.
-/
theorem commaLists_agree :
    (∀ s, (∀ item ∈ Text.commaList s, item.IsItem) ∧
      Text.commaList (Text.joined "," (Text.commaList s)) = Text.commaList s) ∧
    (∀ items parts, (∀ item ∈ items, Text.IsItem item) → Text.Spread items parts →
      Text.commaList (Text.joined "," parts) = items) ∧
    (∀ (s : Text) (name : String) (texts : List Text) (paths : List FilePath),
      Settings.listOf name (Settings.textMember name) texts (some (.str s)) =
        .ok (Text.commaList s) ∧
      Settings.listOf name (Settings.pathMember name) paths (some (.str s)) =
        .ok ((Text.commaList s).map FilePath.ofText)) ∧
    ∀ (source : FileSource) (env : Environment) (s : Text),
      env.get (.str Names.configLocationKey) .null = .ok (.str s) → s.isEmpty = false →
        source.resolveLocations env = .ok ((Text.commaList s).map FilePath.ofText) := by
  refine ⟨fun s => ⟨fun item => Text.isItem_of_mem_commaList, ?_⟩, ?_, ?_, ?_⟩
  · exact Text.commaList_joined (Text.spread_self _) fun item => Text.isItem_of_mem_commaList
  · intro items parts hitems hspread
    exact Text.commaList_joined hspread hitems
  · intro s name texts paths
    exact ⟨Settings.listOf_texts name texts s, Settings.listOf_paths name paths s⟩
  · intro source env s hget hne
    rw [resolveLocations_eq, hget, ok_bind, locationsBy, hne, locationsOf_text]
    rfl

/-- An environment in which a text configures the directories. -/
def searchingIn (s : Text) : Environment :=
  let entries : Entries := Table.ofList [(.str Names.configLocationKey, .str s)]
  ⟨(LayerStack.ofList [Layer.ofEntries "a" entries]).toOption.getD LayerStack.empty, [], []⟩

/-- Blanks of several kinds around two items, one of them with a blank inside, and empty parts. -/
theorem commaLists_agree_example :
    (∀ item ∈ (["a", "b c"] : List Text), item.IsItem) ∧
    Text.Spread ["a", "b c"] [" a\t", "", "\u3000", "b c"] ∧
    Text.commaList (Text.joined "," [" a\t", "", "\u3000", "b c"]) = ["a", "b c"] ∧
    (searchingIn " a\t,,\u3000,b c").get (.str Names.configLocationKey) .null =
      .ok (.str " a\t,,\u3000,b c") ∧
    Text.isEmpty " a\t,,\u3000,b c" = false ∧
    resolveLocations default (searchingIn " a\t,,\u3000,b c") =
      .ok [FilePath.ofText "a", FilePath.ofText "b c"] := by
  have hitems : ∀ item ∈ (["a", "b c"] : List Text), item.IsItem := by
    refine List.forall_mem_cons.mpr ⟨?_, List.forall_mem_singleton.mpr ?_⟩
    · exact ⟨by decide, by decide, by decide, by decide⟩
    · exact ⟨by decide, by decide, by decide, by decide⟩
  have hspread : Text.Spread ["a", "b c"] [" a\t", "", "\u3000", "b c"] := by
    have hblank (t : Text) (h : t.points.all Text.isBlankPoint = true) : t.IsBlankText :=
      List.all_eq_true.mp h
    refine .item (hblank " " rfl) (hblank "\t" rfl) ?_
    refine .blank (hblank "" rfl) (.blank (hblank "\u3000" rfl) ?_)
    exact .item (hblank "" rfl) (hblank "" rfl) .nil
  have hget : (searchingIn " a\t,,\u3000,b c").get (.str Names.configLocationKey) .null =
      .ok (.str " a\t,,\u3000,b c") := by
    rfl
  obtain ⟨-, hgiven, -, hsearched⟩ := commaLists_agree
  have hlist : Text.commaList " a\t,,\u3000,b c" = ["a", "b c"] := hgiven _ _ hitems hspread
  refine ⟨hitems, hspread, hgiven _ _ hitems hspread, hget, rfl, ?_⟩
  rw [hsearched _ _ _ hget rfl, hlist]
  rfl

end FileSource

end LiveConfig
