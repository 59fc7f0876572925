import LiveConfig.Report.Lines

/-!
# What lines print

Lines are printed until one of them fails.  `Prints` says what comes of some lines: the output up to
there and the failure.  Each line is either printed as a whole, with its line end, or not at all.

**Results.**
* `Report.exists_prints`, `Report.printAll_of_prints`: printing lines does what `Prints` says.
* `Report.exists_printed_iff`: what keeps a text from being printed.
* `Report.head?_of_printed`, `Report.head?_withLineFeeds`: how output begins.
-/

namespace LiveConfig.Report

/-- What some lines print, and the failure of the line behind that, if there is one. -/
inductive Prints : List Line → String → Option Failure → Prop
  | all : Prints [] "" none
  | next {line : Line} {rest : List Line} {s output : String} {failure? : Option Failure} :
    line >>= printed = .ok s → Prints rest output failure? →
      Prints (line :: rest) (s ++ "\n" ++ output) failure?
  | stopped {line : Line} {rest : List Line} {failure : Failure} :
    line >>= printed = .error failure → Prints (line :: rest) "" (some failure)

theorem exists_prints (lines : List Line) : ∃ output failure?, Prints lines output failure? := by
  induction lines with
  | nil => exact ⟨"", none, .all⟩
  | cons line rest ih =>
    cases hline : line >>= printed with
    | ok s =>
      obtain ⟨output, failure?, hrest⟩ := ih
      exact ⟨_, _, .next hline hrest⟩
    | error failure => exact ⟨_, _, .stopped hline⟩

variable {lines : List Line} {output : String} {failure? : Option Failure}

theorem printAfter_of_prints (h : Prints lines output failure?) (earlier : String) :
    printAfter earlier lines = (earlier ++ output, failure?) := by
  induction h generalizing earlier with
  | all => rw [printAfter, String.append_empty]
  | next hline _ ih =>
    simp only [printAfter, hline]
    rw [ih, String.append_assoc, String.append_assoc, String.append_assoc]
  | stopped hline =>
    simp only [printAfter, hline]
    rw [String.append_empty]

theorem printAll_of_prints (h : Prints lines output failure?) :
    printAll lines = (withLineFeeds output, failure?) := by
  rw [printAll, printAfter_of_prints h, String.empty_append]

/-- Everything is printed if every line can be made and printed. -/
theorem Prints.eq_none_iff (h : Prints lines output failure?) :
    failure? = none ↔ ∀ line ∈ lines, ∃ s, line >>= printed = .ok s := by
  induction h with
  | all => exact iff_of_true rfl (List.forall_mem_nil _)
  | next hline _ ih => rw [ih, List.forall_mem_cons, and_iff_right ⟨_, hline⟩]
  | stopped hline =>
    refine iff_of_false nofun fun hall => ?_
    obtain ⟨s, hs⟩ := hall _ List.mem_cons_self
    cases hline.symm.trans hs

/-! ## What cannot be printed -/

theorem isSurrogate_of_isBetween
    {low high : Char} {p : CodePoint} (h : isBetween low high p = true) : p.isSurrogate = false := by
  cases p with
  | char c => rfl
  | surrogate offset => cases h

theorem any_isSurrogate_dropWhile (low high : Char) (ps : List CodePoint) :
    (ps.dropWhile (isBetween low high)).any CodePoint.isSurrogate =
      ps.any CodePoint.isSurrogate := by
  induction ps with
  | nil => rfl
  | cons p ps ih =>
    rw [List.dropWhile_cons]
    split
    · rename_i hp
      rw [ih, List.any_cons, isSurrogate_of_isBetween hp, Bool.false_or]
    · rfl

/-- No surrogate is part of a terminal sequence. -/
theorem any_isSurrogate_of_skipSequence?
    {ps rest : List CodePoint} (h : skipSequence? ps = some rest) :
    rest.any CodePoint.isSurrogate = ps.any CodePoint.isSurrogate := by
  unfold skipSequence? at h
  split at h
  · rename_i body
    split at h
    · rename_i p behind hbehind
      split at h
      · rename_i hp
        obtain rfl := Option.some.inj h
        have hbody := any_isSurrogate_dropWhile ' ' '/' (body.dropWhile (isBetween '0' '?'))
        rw [hbehind, any_isSurrogate_dropWhile, List.any_cons, isSurrogate_of_isBetween hp,
          Bool.false_or] at hbody
        exact hbody
      · cases h
    · cases h
  · cases h

theorem any_isSurrogate_dropSequences (n : Nat) (ps : List CodePoint) :
    (dropSequences n ps).any CodePoint.isSurrogate = ps.any CodePoint.isSurrogate := by
  induction n generalizing ps with
  | zero => rfl
  | succ n ih =>
    cases ps with
    | nil => rfl
    | cons p ps =>
      rw [dropSequences]
      split
      · rename_i rest hskip
        rw [ih, any_isSurrogate_of_skipSequence? hskip]
      · rw [List.any_cons, List.any_cons, ih]

theorem isSome_surrogatesFrom? (isBad : CodePoint → Bool) (position : Nat) (ps : List CodePoint) :
    (Text.Utf8.surrogatesFrom? isBad position ps).isSome = ps.any isBad := by
  induction ps generalizing position with
  | nil => rfl
  | cons p ps ih =>
    rw [Text.Utf8.surrogatesFrom?, List.any_cons]
    cases isBad p with
    | true => rfl
    | false => exact ih (position + 1)

/-- A text is printed if it has no surrogates. -/
theorem exists_printed_iff {t : Text} :
    (∃ s, printed t = .ok s) ↔ t.points.any CodePoint.isSurrogate = false := by
  have hsome : (Text.Utf8.unwritable? (withoutSequences t)).isSome =
      t.points.any CodePoint.isSurrogate :=
    (isSome_surrogatesFrom? _ _ _).trans (any_isSurrogate_dropSequences _ _)
  rw [← hsome]
  unfold printed
  dsimp only
  cases Text.Utf8.unwritable? (withoutSequences t) with
  | none => exact iff_of_true ⟨_, rfl⟩ rfl
  | some surrogates => exact iff_of_false nofun nofun

/-! ## How output begins -/

/-- A first character that starts no terminal sequence is printed. -/
theorem head?_of_printed
    {c : Char} {ps : List CodePoint} {s : String} (hc : c ≠ '\x1b')
    (h : printed ⟨.char c :: ps⟩ = .ok s) : s.toList.head? = some c := by
  have hskip : skipSequence? (.char c :: ps) = none := by
    unfold skipSequence?
    split
    · rename_i heq
      cases heq
      exact absurd rfl hc
    · rfl
  have hkept : dropSequences (ps.length + 1) (.char c :: ps) =
      .char c :: dropSequences ps.length ps := by
    rw [dropSequences, hskip]
  unfold printed withoutSequences at h
  rw [List.length_cons, hkept] at h
  dsimp only at h
  split at h
  · cases h
  · obtain rfl := Except.ok.inj h
    rw [Text.plain, String.toList_ofList]
    rfl

/-- Line ends are changed behind other first characters only. -/
theorem head?_withLineFeeds
    {c : Char} (hc : c ≠ '\r') (h : output.toList.head? = some c) :
    (withLineFeeds output).toList.head? = some c := by
  rw [withLineFeeds, String.toList_ofList]
  generalize output.toList = cs at h ⊢
  cases cs with
  | nil => cases h
  | cons c' cs =>
    obtain rfl : c' = c := Option.some.inj h
    rw [dropReturns]
    · rfl
    · rintro cs' rfl
      exact absurd rfl hc

end LiveConfig.Report
