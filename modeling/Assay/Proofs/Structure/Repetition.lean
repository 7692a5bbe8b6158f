import Mathlib.Data.List.Range
import Assay.Structure.Duplicates

/-!
# Which blocks repeat

* `Repeats`: two windows of a file repeat each other;
* `mem_repeatStarts`, `repeatStarts_ordered`: the starts of those that do, in order;
* `inLines_eq`: the blocks that are found are theirs;
* `Repeats.of_run`: lines that come twice make windows that repeat;
* `inLines_repeats`: all of that for a file.
-/

namespace Assay.DuplicateBlock

variable {window : Nat} {minChars : Int} {lines : List (List Char)}

/-- The text of the window at a start. -/
def windowText (window : Nat) (lines : List (List Char)) (s : Nat) : String :=
  String.ofList (Text.strip (['\n'].intercalate ((lines.drop s).take window)))

/-- The windows at two starts repeat each other: a line at least lies between them, both are in the
file, and they have one text, which is long enough. -/
structure Repeats (window : Nat) (minChars : Int) (lines : List (List Char)) (i j : Nat) :
    Prop where
  apart : i + window < j
  inside : j + window ≤ lines.length
  same : windowText window lines j = windowText window lines i
  long : minChars ≤ (windowText window lines i).length

/-- The block of the windows at two starts, whose lines count from one. -/
def ofRepeat (window : Nat) (lines : List (List Char)) (i j : Nat) : DuplicateBlock :=
  ⟨i + 1, i + window, j + 1, j + window, windowText window lines i⟩

theorem windowTexts_eq (window : Nat) (lines : List (List Char)) :
    windowTexts window lines =
      (List.range (lines.length + 1 - window)).map (windowText window lines) := by
  have hcount : ((lines.length : Int) + 1 - window).toNat = lines.length + 1 - window := by omega
  rw [windowTexts, hcount]
  apply List.map_congr_left
  intro s _
  have hstop : ¬ ((s : Int) + window < 0) := by omega
  have hlength : ((s : Int) + window - s).toNat = window := by omega
  simp only [slice, if_neg hstop, hlength, windowText]

/-- The texts of windows with their starts, from a start on. -/
def textsAt (window : Nat) (lines : List (List Char)) (start count : Nat) :
    List (String × Nat) :=
  (List.range' start count).map fun s => (windowText window lines s, s)

theorem zipIdx_windowTexts (window : Nat) (lines : List (List Char)) :
    (windowTexts window lines).zipIdx = textsAt window lines 0 (lines.length + 1 - window) := by
  rw [windowTexts_eq, textsAt, List.range_eq_range']
  apply List.ext_getElem
  · simp
  · intro k _ _
    simp

theorem drop_textsAt (start count k : Nat) : (textsAt window lines start count).drop k =
    textsAt window lines (start + k) (count - k) := by
  rw [textsAt, ← List.map_drop, List.drop_range', Nat.mul_one]
  rfl

/-- The starts below `stop` of the windows that repeat the one at a start. -/
def repeatsFrom (window : Nat) (minChars : Int) (lines : List (List Char)) (stop i : Nat) :
    List Nat :=
  if ((windowText window lines i).length : Int) < minChars then []
  else (List.range' (i + 1 + window) (stop - (i + 1 + window))).filter fun j =>
    windowText window lines j == windowText window lines i

theorem filterMap_textsAt (i start count : Nat) :
    ((textsAt window lines start count).filterMap fun (other, j) =>
        if other == windowText window lines i then
          some (ofStarts window i j (windowText window lines i))
        else none) =
      ((List.range' start count).filter fun j =>
        windowText window lines j == windowText window lines i).map (ofRepeat window lines i) := by
  rw [textsAt, List.filterMap_map, ← List.filterMap_eq_filter, List.map_filterMap]
  apply List.filterMap_congr
  intro j _
  dsimp only [Function.comp_apply, Option.guard]
  split
  · rfl
  · rfl

/-- The pairs of some windows, row by row. -/
theorem pairs_textsAt (start count : Nat) :
    pairs window minChars (textsAt window lines start count) =
      (List.range' start count).flatMap fun i =>
        (repeatsFrom window minChars lines (start + count) i).map (ofRepeat window lines i) := by
  induction count generalizing start with
  | zero => rfl
  | succ count ih =>
    have hrow : textsAt window lines start (count + 1) =
        (windowText window lines start, start) :: textsAt window lines (start + 1) count := rfl
    have hstop : start + (count + 1) = start + 1 + count := by omega
    have hleft : count - window = start + 1 + count - (start + 1 + window) := by omega
    rw [hrow, pairs, ih, drop_textsAt, filterMap_textsAt, List.range'_succ, List.flatMap_cons,
      hstop, repeatsFrom, ← hleft]
    split
    · rfl
    · rfl

/-- The starts of the windows that repeat each other. -/
def repeatStarts (window : Nat) (minChars : Int) (lines : List (List Char)) : List (Nat × Nat) :=
  (List.range' 0 (lines.length + 1 - window)).flatMap fun i =>
    (repeatsFrom window minChars lines (lines.length + 1 - window) i).map fun j => (i, j)

/-- The blocks that are found are those of the windows that repeat each other. -/
theorem inLines_eq (window : Nat) (minChars : Int) (lines : List (List Char)) :
    inLines window minChars lines =
      (repeatStarts window minChars lines).map fun p => ofRepeat window lines p.1 p.2 := by
  have hsign : (0 : Int) ≤ window := Int.natCast_nonneg window
  rw [inLines, if_pos hsign, Int.toNat_natCast, zipIdx_windowTexts, pairs_textsAt, Nat.zero_add,
    repeatStarts, List.map_flatMap]
  simp only [List.map_map, Function.comp_def]

theorem mem_repeatsFrom {i j : Nat} :
    j ∈ repeatsFrom window minChars lines (lines.length + 1 - window) i ↔
      Repeats window minChars lines i j := by
  unfold repeatsFrom
  split
  · rename_i hshort
    constructor
    · intro h
      cases h
    · intro h
      exact absurd h.long (Int.not_le.mpr hshort)
  · rename_i hlong
    rw [List.mem_filter, List.mem_range'_1, beq_iff_eq]
    constructor
    · rintro ⟨⟨hle, hlt⟩, hsame⟩
      exact ⟨by omega, by omega, hsame, Int.not_lt.mp hlong⟩
    · intro h
      have hapart := h.apart
      have hinside := h.inside
      exact ⟨⟨by omega, by omega⟩, h.same⟩

theorem mem_repeatStarts {i j : Nat} :
    (i, j) ∈ repeatStarts window minChars lines ↔ Repeats window minChars lines i j := by
  rw [repeatStarts, List.mem_flatMap]
  constructor
  · rintro ⟨i', _, hmem⟩
    obtain ⟨j', hj, heq⟩ := List.mem_map.mp hmem
    obtain ⟨rfl, rfl⟩ := Prod.mk.inj heq
    exact mem_repeatsFrom.mp hj
  · intro h
    have hapart := h.apart
    have hinside := h.inside
    have hi : i ∈ List.range' 0 (lines.length + 1 - window) :=
      List.mem_range'_1.mpr ⟨Nat.zero_le i, by omega⟩
    exact ⟨i, hi, List.mem_map.mpr ⟨j, mem_repeatsFrom.mpr h, rfl⟩⟩

/-- One pair of starts comes before another, by the first start and then by the second. -/
def IsBefore (p q : Nat × Nat) : Prop :=
  p.1 < q.1 ∨ p.1 = q.1 ∧ p.2 < q.2

theorem repeatStarts_ordered (window : Nat) (minChars : Int) (lines : List (List Char)) :
    (repeatStarts window minChars lines).Pairwise IsBefore := by
  apply List.pairwise_flatMap.mpr
  constructor
  · intro i _
    have hrow : (repeatsFrom window minChars lines (lines.length + 1 - window) i).Pairwise
        (· < ·) := by
      unfold repeatsFrom
      split
      · exact .nil
      · exact (List.pairwise_lt_range' 1).filter _
    exact List.pairwise_map.mpr (hrow.imp fun hlt => .inr ⟨rfl, hlt⟩)
  · apply (List.pairwise_lt_range' 1).imp
    intro i j hlt p hp q hq
    obtain ⟨_, _, rfl⟩ := List.mem_map.mp hp
    obtain ⟨_, _, rfl⟩ := List.mem_map.mp hq
    exact .inl hlt

/-! ## Runs -/

/-- Where the same lines come twice, so do the windows inside them. -/
theorem windowText_of_run {i j m k : Nat} (hrun : (lines.drop i).take m = (lines.drop j).take m)
    (hk : k + window ≤ m) : windowText window lines (j + k) = windowText window lines (i + k) := by
  have hinner : ∀ s, (lines.drop (s + k)).take window =
      (((lines.drop s).take m).drop k).take window := by
    intro s
    rw [List.drop_take, List.take_take, List.drop_drop, Nat.min_eq_left (by omega)]
  rw [windowText, windowText, hinner j, hinner i, hrun]

/-- Lines that come twice, with a line between the two windows at their starts, make windows that
repeat each other at every line on which a window fits, as far as their text is long enough. -/
theorem Repeats.of_run {i j m k : Nat} (happart : i + window < j) (hinside : j + m ≤ lines.length)
    (hrun : (lines.drop i).take m = (lines.drop j).take m) (hk : k + window ≤ m)
    (hlong : minChars ≤ (windowText window lines (i + k)).length) :
    Repeats window minChars lines (i + k) (j + k) :=
  ⟨by omega, by omega, windowText_of_run hrun hk, hlong⟩

/-- **Repeated blocks.** What is found is one block for each two windows that repeat each other, in
the order of their starts. The two windows of a block never overlap; and where a run of lines comes
twice, all windows in it that start at one place in both are found, as far as their text is long
enough. -/
theorem inLines_repeats (window : Nat) (minChars : Int) (lines : List (List Char)) :
    (∃ starts : List (Nat × Nat), starts.Pairwise IsBefore ∧
        (∀ i j, (i, j) ∈ starts ↔ Repeats window minChars lines i j) ∧
        inLines window minChars lines = starts.map fun p => ofRepeat window lines p.1 p.2) ∧
      (∀ b ∈ inLines window minChars lines, b.endLine < b.duplicateStart) ∧
      ∀ i j m, i + window < j → j + m ≤ lines.length →
        (lines.drop i).take m = (lines.drop j).take m → ∀ k, k + window ≤ m →
        minChars ≤ (windowText window lines (i + k)).length →
        ofRepeat window lines (i + k) (j + k) ∈ inLines window minChars lines := by
  have heq := inLines_eq window minChars lines
  have hordered := repeatStarts_ordered window minChars lines
  refine ⟨⟨_, hordered, fun _ _ => mem_repeatStarts, heq⟩, ?_, ?_⟩
  · intro b hb
    rw [heq] at hb
    obtain ⟨⟨i, j⟩, hmem, rfl⟩ := List.mem_map.mp hb
    have hapart := (mem_repeatStarts.mp hmem).apart
    change (i : Int) + window < j + 1
    omega
  · intro i j m hapart hinside hrun k hk hlong
    have hrepeats := Repeats.of_run hapart hinside hrun hk hlong
    rw [heq]
    exact List.mem_map.mpr ⟨(i + k, j + k), mem_repeatStarts.mpr hrepeats, rfl⟩

/-- Three lines that come twice, and the windows of two lines that start on the second of them. -/
theorem inLines_repeats_second :
    let lines := ["one", "two", "three ", "", "one", "two", "three "].map String.toList
    (lines.drop 0).take 3 = (lines.drop 4).take 3 ∧
      ⟨2, 3, 6, 7, "two\nthree"⟩ ∈ inLines 2 9 lines := by
  intro lines
  have hrun : (lines.drop 0).take 3 = (lines.drop 4).take 3 := by decide
  obtain ⟨_, _, hruns⟩ := inLines_repeats 2 9 lines
  exact ⟨hrun, hruns 0 4 3 (by decide) (by decide) hrun 1 (by decide) (by decide)⟩

end Assay.DuplicateBlock
