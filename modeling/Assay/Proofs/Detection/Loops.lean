import Assay.Proofs.Detection.Extent
import Assay.Proofs.Detection.Reports
import Assay.Proofs.Pattern.Takes
import Assay.Proofs.Text.Numeral
import Assay.Proofs.Text.Trim

/-!
# Which loops are open

A line that is a closing brace closes the latest loop that is still open, and does nothing where none
is. So a loop is open as long as the closing braces after it do not outnumber the loops after it, and
the depth is the number of such loops.

* `loopsAfter`: the loops after some lines; `loopsAfter_agrees` says that their depth is how many
  there are;
* `StaysOpen`, `openLoops`: the loops that are still open at a line, told by the lines alone;
* `openLoops_loop`, `openLoops_closing`, `openLoops_other`: what a line makes of them;
* `loopsAfter_opened`: those are the loops that the search keeps;
* `told_loops`: what a file is told of its loops.
-/

namespace Assay

/-- A boundary has a character of a word beside it. -/
theorem Pattern.exists_word_of_occursIn {p q : Pattern} {s : List Char}
    (h : (boundary ++ p ++ q).occursIn s = true) : ∃ c ∈ s, Text.isWord c = true := by
  obtain ⟨a, w, r, rfl, hw⟩ := occursIn_iff.mp h
  obtain ⟨u, v, rfl, hu, _⟩ := takes_append_iff.mp hw
  obtain ⟨_, u, rfl, ⟨rfl, hboundary⟩, _⟩ := takes_append_iff.mp hu
  by_contra hnone
  push Not at hnone
  have hbefore : (a.getLast?.map Text.isWord).getD false = false := by
    cases ha : a.getLast? with
    | none => rfl
    | some c =>
      have hc : c ∈ a := List.mem_of_getLast? ha
      simpa using hnone c (by simp [hc])
  have hafter : ((u ++ (v ++ r)).head?.map Text.isWord).getD false = false := by
    cases hr : (u ++ (v ++ r)).head? with
    | none => rfl
    | some c =>
      have hc : c ∈ u ++ (v ++ r) := List.mem_of_head? hr
      simpa using hnone c (by simpa using Or.inr hc)
  simp only [Cursor.atBoundary, hbefore] at hboundary
  rw [hafter] at hboundary
  cases hboundary

namespace Performance

variable {lines : List (List Char)} {n : Nat} {line : List Char}

/-! ## One line -/

/-- No line opens a loop and is a closing brace. -/
theorem not_loop_of_isClosing (h : isClosing line = true) : loop.occursIn line = false := by
  by_contra hloop
  obtain ⟨c, hc, hword⟩ := Pattern.exists_word_of_occursIn (eq_true_of_ne_false hloop)
  obtain ⟨before, after, hcut, hbefore, hafter⟩ := (Text.trims_strip line).cut
  rw [hcut, eq_of_beq h, List.mem_append, List.mem_append] at hc
  rcases hc with (hc | hc) | hc
  · rw [Text.isWord_eq_false_of_isBlank (hbefore c hc)] at hword
    cases hword
  · rw [List.mem_singleton.mp hc] at hword
    revert hword
    decide
  · rw [Text.isWord_eq_false_of_isBlank (hafter c hc)] at hword
    cases hword

theorem not_closing_of_loop (h : loop.occursIn line = true) : isClosing line = false := by
  by_contra hclosing
  rw [not_loop_of_isClosing (eq_true_of_ne_false hclosing)] at h
  cases h

/-- A line opens a loop, is a closing brace or is neither. -/
theorem loop_or_closing (line : List Char) :
    (loop.occursIn line = true ∧ isClosing line = false) ∨
      (loop.occursIn line = false ∧ isClosing line = true) ∨
      (loop.occursIn line = false ∧ isClosing line = false) := by
  cases hloop : loop.occursIn line with
  | true => exact .inl ⟨rfl, not_closing_of_loop hloop⟩
  | false =>
    cases hclosing : isClosing line with
    | true => exact .inr (.inl ⟨rfl, rfl⟩)
    | false => exact .inr (.inr ⟨rfl, rfl⟩)

/-- The depth is the number of the loops. -/
def Loops.Agrees (s : Loops) : Prop :=
  s.depth = s.opened.length

theorem enter_agrees {s : Loops} (h : s.Agrees) (n : Nat) (line : List Char) :
    (enter s n line).Agrees := by
  unfold enter
  split
  · exact congrArg (· + 1) h
  · exact h

theorem close_agrees {s : Loops} (h : s.Agrees) : s.close.Agrees := by
  unfold Loops.Agrees at h ⊢
  cases hs : s.opened with
  | nil => simpa [Loops.close, hs] using h
  | cons i rest => simp [Loops.close, hs, h]

/-- The depth from which a loop is taken is not zero. -/
theorem close_depth {s : Loops} (h : s.Agrees) (hopened : s.opened ≠ []) :
    s.close.depth + 1 = s.depth := by
  unfold Loops.Agrees at h
  cases hs : s.opened with
  | nil => exact absurd hs hopened
  | cons i rest => simp [Loops.close, hs, h]

theorem leave_agrees {s : Loops} (h : s.Agrees) (line : List Char) : (leave s line).Agrees := by
  unfold leave
  split
  · exact close_agrees h
  · exact h

/-! ## All lines -/

/-- The loops after some lines, the first of which has a number. -/
def Loops.through (s : Loops) (n : Nat) : List (List Char) → Loops
  | [] => s
  | line :: rest => (leave (enter s n line) line).through (n + 1) rest

/-- The loops after the first lines of a file. -/
def loopsAfter (lines : List (List Char)) (n : Nat) : Loops :=
  Loops.none.through 1 (lines.take n)

theorem Loops.through_append (s : Loops) (n : Nat) (above below : List (List Char)) :
    s.through n (above ++ below) = (s.through n above).through (n + above.length) below := by
  induction above generalizing s n with
  | nil => rfl
  | cons line above ih =>
    rw [List.cons_append, through, ih, List.length_cons, Nat.add_comm above.length, ← Nat.add_assoc]
    rfl

theorem loopsAfter_succ (hline : lines[n]? = some line) :
    loopsAfter lines (n + 1) = leave (enter (loopsAfter lines n) (n + 1) line) line := by
  have hlt : n < lines.length := (List.getElem?_eq_some_iff.mp hline).1
  rw [loopsAfter, List.take_add_one, hline, Loops.through_append, List.length_take_of_le hlt.le,
    Nat.add_comm 1]
  rfl

theorem loopsAfter_agrees (hn : n ≤ lines.length) : (loopsAfter lines n).Agrees := by
  induction n with
  | zero => rfl
  | succ n ih =>
    rw [loopsAfter_succ (List.getElem?_eq_getElem hn)]
    exact leave_agrees (enter_agrees (ih (Nat.le_of_lt hn)) _ _) _

/-! ## Loops that stay open -/

/-- How many lines from `a` up to `b` open a loop, less those that are a closing brace. -/
def loopBalance (lines : List (List Char)) (a b : Nat) : Int :=
  (linesUpTo lines a b).countP loop.occursIn - (linesUpTo lines a b).countP isClosing

/-- A line before `n` opens a loop, and wherever one looks from there up to `n`, the closing braces
that have come do not outnumber the loops. -/
def StaysOpen (lines : List (List Char)) (n i : Nat) : Prop :=
  i < n ∧ lines[i]?.any loop.occursIn = true ∧ ∀ k ≤ n, i < k → 0 ≤ loopBalance lines (i + 1) k

instance (lines : List (List Char)) (n i : Nat) : Decidable (StaysOpen lines n i) :=
  inferInstanceAs (Decidable (_ ∧ _ ∧ _))

/-- The loops that are still open before a line, the latest first. -/
def openLoops (lines : List (List Char)) (n : Nat) : List Nat :=
  ((List.range n).filter fun i => StaysOpen lines n i).reverse

theorem loopBalance_self (lines : List (List Char)) (n : Nat) : loopBalance lines n n = 0 := by
  simp [loopBalance, linesUpTo_self]

theorem loopBalance_succ {a : Nat} (hle : a ≤ n) (hline : lines[n]? = some line) :
    loopBalance lines a (n + 1) =
      loopBalance lines a n + (loop.occursIn line).toNat - (isClosing line).toNat := by
  rw [loopBalance, loopBalance, countP_linesUpTo_succ _ hle hline,
    countP_linesUpTo_succ _ hle hline]
  omega

theorem mem_openLoops {i : Nat} : i ∈ openLoops lines n ↔ StaysOpen lines n i := by
  simp only [openLoops, List.mem_reverse, List.mem_filter, List.mem_range, decide_eq_true_eq]
  exact ⟨And.right, fun h => ⟨h.1, h⟩⟩

/-- A loop is open after a line if the line opens it, or if it was open before and the balance since
then allows it. -/
theorem staysOpen_succ_iff {i : Nat} (hi : i < n) :
    StaysOpen lines (n + 1) i ↔ StaysOpen lines n i ∧ 0 ≤ loopBalance lines (i + 1) (n + 1) := by
  constructor
  · rintro ⟨_, hloop, hbalance⟩
    exact ⟨⟨hi, hloop, fun k hk hik => hbalance k (Nat.le_succ_of_le hk) hik⟩,
      hbalance (n + 1) (Nat.le_refl _) (Nat.lt_succ_of_lt hi)⟩
  · rintro ⟨⟨_, hloop, hbalance⟩, hlast⟩
    refine ⟨Nat.lt_succ_of_lt hi, hloop, fun k hk hik => ?_⟩
    rcases Nat.lt_or_eq_of_le hk with hk | rfl
    · exact hbalance k (Nat.le_of_lt_succ hk) hik
    · exact hlast

theorem staysOpen_self_iff (hline : lines[n]? = some line) :
    StaysOpen lines (n + 1) n ↔ loop.occursIn line = true := by
  constructor
  · rintro ⟨_, hloop, _⟩
    simpa [hline] using hloop
  · intro hloop
    refine ⟨Nat.lt_succ_self n, by simpa [hline] using hloop, fun k hk hnk => ?_⟩
    obtain rfl : k = n + 1 := Nat.le_antisymm hk hnk
    rw [loopBalance_self]

/-- A line adds the loop that it opens and leaves of the others those that the balance allows. -/
theorem openLoops_succ (hline : lines[n]? = some line) :
    openLoops lines (n + 1) = (if loop.occursIn line then [n] else []) ++
      (openLoops lines n).filter fun i => 0 ≤ loopBalance lines (i + 1) (n + 1) := by
  have hself : ([n].filter fun i => StaysOpen lines (n + 1) i) =
      if loop.occursIn line then [n] else [] := by
    simp [List.filter_cons, staysOpen_self_iff hline]
  have hbefore : ((List.range n).filter fun i => StaysOpen lines (n + 1) i) =
      ((List.range n).filter fun i => StaysOpen lines n i).filter fun i =>
        0 ≤ loopBalance lines (i + 1) (n + 1) := by
    rw [List.filter_filter]
    refine List.filter_congr fun i hi => ?_
    rw [← Bool.decide_and, decide_eq_decide, and_comm]
    exact staysOpen_succ_iff (List.mem_range.mp hi)
  rw [openLoops, List.range_succ, List.filter_append, List.reverse_append, hself, hbefore,
    openLoops, List.filter_reverse]
  split
  · rfl
  · rfl

/-- Only a closing brace takes a loop away. -/
theorem filter_openLoops (hline : lines[n]? = some line) (hclosing : isClosing line = false) :
    ((openLoops lines n).filter fun i => 0 ≤ loopBalance lines (i + 1) (n + 1)) =
      openLoops lines n := by
  apply List.filter_eq_self.mpr
  intro i hi
  obtain ⟨hlt, _, hbalance⟩ := mem_openLoops.mp hi
  have hnow := hbalance n (Nat.le_refl n) hlt
  rw [decide_eq_true_eq, loopBalance_succ (a := i + 1) hlt hline, hclosing, Bool.toNat_false]
  omega

theorem openLoops_loop (hline : lines[n]? = some line) (hloop : loop.occursIn line = true) :
    openLoops lines (n + 1) = n :: openLoops lines n := by
  have hclosing := not_closing_of_loop hloop
  rw [openLoops_succ hline, if_pos hloop, filter_openLoops hline hclosing]
  rfl

theorem openLoops_other (hline : lines[n]? = some line) (hloop : loop.occursIn line = false)
    (hclosing : isClosing line = false) : openLoops lines (n + 1) = openLoops lines n := by
  rw [openLoops_succ hline, hloop, filter_openLoops hline hclosing]
  rfl

/-- The balance since a loop that is still open counts the open loops after it. -/
def Ranked (lines : List (List Char)) (n : Nat) : Prop :=
  ∀ (k i : Nat), (openLoops lines n)[k]? = some i → loopBalance lines (i + 1) n = k

theorem Ranked.closing (h : Ranked lines n) (hline : lines[n]? = some line)
    (hclosing : isClosing line = true) : openLoops lines (n + 1) = (openLoops lines n).tail := by
  have hloop := not_loop_of_isClosing hclosing
  rw [openLoops_succ hline, hloop]
  have hbalance {i : Nat} (hi : i ∈ openLoops lines n) :
      loopBalance lines (i + 1) (n + 1) = loopBalance lines (i + 1) n - 1 := by
    rw [loopBalance_succ (mem_openLoops.mp hi).1 hline, hloop, hclosing]
    simp
  cases hopen : openLoops lines n with
  | nil => rfl
  | cons i rest =>
    have hlatest := h 0 i (by rw [hopen]; rfl)
    rw [List.filter_cons_of_neg, List.filter_eq_self.mpr]
    · rfl
    · intro j hj
      obtain ⟨k, hk⟩ := List.getElem?_of_mem hj
      have hearlier := h (k + 1) j (by rw [hopen]; exact hk)
      rw [decide_eq_true_eq, hbalance (by rw [hopen]; exact List.mem_cons_of_mem i hj)]
      omega
    · rw [decide_eq_true_eq, hbalance (by rw [hopen]; exact List.mem_cons_self)]
      omega

theorem Ranked.next (h : Ranked lines n) (hline : lines[n]? = some line) :
    Ranked lines (n + 1) := by
  intro k i hi
  rcases loop_or_closing line with ⟨hloop, hclosing⟩ | ⟨hloop, hclosing⟩ | ⟨hloop, hclosing⟩
  · rw [openLoops_loop hline hloop] at hi
    cases k with
    | zero =>
      obtain rfl := Option.some.inj hi
      exact loopBalance_self lines (n + 1)
    | succ k =>
      have hrank := h k i hi
      have hlt := (mem_openLoops.mp (List.mem_of_getElem? hi)).1
      rw [loopBalance_succ hlt hline, hrank, hloop, hclosing]
      simp
  · rw [h.closing hline hclosing, List.getElem?_tail] at hi
    have hrank := h (k + 1) i hi
    have hlt := (mem_openLoops.mp (List.mem_of_getElem? hi)).1
    rw [loopBalance_succ hlt hline, hrank, hloop, hclosing]
    simp
  · rw [openLoops_other hline hloop hclosing] at hi
    have hrank := h k i hi
    have hlt := (mem_openLoops.mp (List.mem_of_getElem? hi)).1
    rw [loopBalance_succ hlt hline, hrank, hloop, hclosing]
    simp

theorem ranked (hn : n ≤ lines.length) : Ranked lines n := by
  induction n with
  | zero => exact fun k i hi => by cases hi
  | succ n ih => exact (ih (Nat.le_of_lt hn)).next (List.getElem?_eq_getElem hn)

theorem openLoops_closing (hline : lines[n]? = some line) (hclosing : isClosing line = true) :
    openLoops lines (n + 1) = (openLoops lines n).tail :=
  (ranked (Nat.le_of_lt (List.getElem?_eq_some_iff.mp hline).1)).closing hline hclosing

/-! ## The search -/

theorem enter_opened (s : Loops) (n : Nat) (line : List Char) :
    (enter s n line).opened = if loop.occursIn line then n :: s.opened else s.opened := by
  unfold enter
  split
  · rfl
  · rfl

theorem leave_opened (s : Loops) (line : List Char) :
    (leave s line).opened = if isClosing line then s.opened.tail else s.opened := by
  unfold leave
  split
  · cases hs : s.opened with
    | nil => simp [Loops.close, hs]
    | cons i rest => simp [Loops.close, hs]
  · rfl

/-- The loops that are kept are those that are still open, by the numbers of their lines. -/
theorem loopsAfter_opened (hn : n ≤ lines.length) :
    (loopsAfter lines n).opened = (openLoops lines n).map (· + 1) := by
  induction n with
  | zero => rfl
  | succ n ih =>
    have hline : lines[n]? = some lines[n] := List.getElem?_eq_getElem hn
    rw [loopsAfter_succ hline, leave_opened, enter_opened, ih (Nat.le_of_lt hn)]
    rcases loop_or_closing lines[n] with
      ⟨hloop, hclosing⟩ | ⟨hloop, hclosing⟩ | ⟨hloop, hclosing⟩
    · rw [openLoops_loop hline hloop, hloop, hclosing]
      rfl
    · rw [openLoops_closing hline hclosing, hloop, hclosing, List.map_tail]
      rfl
    · rw [openLoops_other hline hloop hclosing, hloop, hclosing]
      rfl

theorem loopsAfter_depth (hn : n ≤ lines.length) :
    (loopsAfter lines n).depth = (openLoops lines n).length := by
  rw [loopsAfter_agrees hn, loopsAfter_opened hn, List.length_map]

/-- What is found at a line: a loop inside two others at least. -/
def nestedAt? (lines : List (List Char)) (n : Nat) : Option Finding :=
  if lines[n]?.any loop.occursIn ∧ 2 ≤ (openLoops lines n).length then
    some ⟨nestedRemark ((openLoops lines n).length + 1), n + 1⟩
  else none

theorem loopsFrom_eq {rest : List (List Char)} (hrest : lines.drop n = rest) :
    loopsFrom (loopsAfter lines n) (n + 1) rest =
      (List.range' n rest.length).filterMap (nestedAt? lines) := by
  induction rest generalizing n with
  | nil => rfl
  | cons line rest ih =>
    obtain ⟨hline, hnext⟩ := drop_eq_cons hrest
    have hn : n ≤ lines.length := Nat.le_of_lt (List.getElem?_eq_some_iff.mp hline).1
    have hlater := ih hnext
    rw [loopsAfter_succ hline] at hlater
    rw [loopsFrom, List.length_cons, List.range'_succ, List.filterMap_cons, hlater]
    by_cases hloop : loop.occursIn line = true
    · have hdepth : (enter (loopsAfter lines n) (n + 1) line).depth =
          (openLoops lines n).length + 1 := by
        rw [enter, if_pos hloop, ← loopsAfter_depth hn]
        rfl
      have hany : lines[n]?.any loop.occursIn = true := by rw [hline]; exact hloop
      by_cases hdeep : 2 ≤ (openLoops lines n).length
      · have hthree : loopThreshold ≤ (openLoops lines n).length + 1 := Nat.succ_le_succ hdeep
        simp [nestedAt?, hany, hdeep, hloop, hdepth, hthree]
      · have hthree : ¬ loopThreshold ≤ (openLoops lines n).length + 1 :=
          fun h => hdeep (Nat.le_of_succ_le_succ h)
        simp [nestedAt?, hdeep, hdepth, hthree]
    · have hany : ¬ lines[n]?.any loop.occursIn = true := by rw [hline]; exact hloop
      simp [nestedAt?, hany, hloop]

theorem nestedLoops_eq (text : List Char) : nestedLoops text =
    (List.range (Text.lines text).length).filterMap (nestedAt? (Text.lines text)) := by
  have h := loopsFrom_eq (n := 0) (rfl : (Text.lines text).drop 0 = Text.lines text)
  rwa [← List.range_eq_range'] at h

/-! ## What is told -/

theorem findingsOfAll_untitled {title : String} {rules : List Rule}
    (h : ∀ r ∈ rules, r.remark.title ≠ title) (text : List Char) :
    (Rule.findingsOfAll rules text).filter (fun f => f.remark.title == title) = [] := by
  apply List.filter_eq_nil_iff.mpr
  intro f hf heq
  obtain ⟨r, hr, hf⟩ := List.mem_flatMap.mp hf
  unfold Rule.findings at hf
  split at hf
  · cases hf
  · obtain ⟨_, _, rfl⟩ := List.mem_map.mp hf
    exact h r hr (eq_of_beq heq)

theorem nestedLoops_titled (text : List Char) :
    (nestedLoops text).filter (fun f => f.remark.title == "Deeply Nested Loops") =
      nestedLoops text := by
  apply List.filter_eq_self.mpr
  intro f hf
  rw [nestedLoops_eq] at hf
  obtain ⟨n, _, hn⟩ := List.mem_filterMap.mp hf
  unfold nestedAt? at hn
  split at hn
  · obtain rfl := Option.some.inj hn
    rfl
  · cases hn

/-- **Which loops are open.** After every line the depth is the number of the loops that are kept, so
a loop that is closed takes one from a depth that is not zero. The loops that are kept are those that
are still open: a line that opens a loop adds it, a closing brace takes the latest one away, no line
does both, and any other line leaves them as they are. A file is told of a line exactly if it opens a
loop inside two others that are still open at least, with the number of all these loops. -/
theorem told_loops (u : SourceUnit) :
    (∀ n ≤ u.lines.length,
      (loopsAfter u.lines n).depth = (loopsAfter u.lines n).opened.length ∧
      (loopsAfter u.lines n).opened = (openLoops u.lines n).map (· + 1)) ∧
    (∀ n line, u.lines[n]? = some line →
      let inside := enter (loopsAfter u.lines n) (n + 1) line
      loopsAfter u.lines (n + 1) = leave inside line ∧
      (inside.opened ≠ [] → inside.close.depth + 1 = inside.depth)) ∧
    openLoops u.lines 0 = [] ∧
    (∀ n line, u.lines[n]? = some line →
      (loop.occursIn line = true → openLoops u.lines (n + 1) = n :: openLoops u.lines n) ∧
      (isClosing line = true → openLoops u.lines (n + 1) = (openLoops u.lines n).tail) ∧
      ¬ (loop.occursIn line = true ∧ isClosing line = true) ∧
      (loop.occursIn line = false → isClosing line = false →
        openLoops u.lines (n + 1) = openLoops u.lines n)) ∧
    told "Deeply Nested Loops" (Detector.performance.issues u) =
      (List.range u.lines.length).filterMap fun n =>
        let depth := (openLoops u.lines n).length + 1
        if u.lines[n]?.any loop.occursIn ∧ 2 ≤ (openLoops u.lines n).length then
          some (some ((n : Int) + 1), .medium,
            s!"Found {depth} levels of nested loops, which can cause O(n^{depth}) complexity.")
        else none := by
  refine ⟨fun n hn => ⟨loopsAfter_agrees hn, loopsAfter_opened hn⟩, ?_, rfl, ?_, ?_⟩
  · intro n line hline
    have hn : n ≤ u.lines.length := Nat.le_of_lt (List.getElem?_eq_some_iff.mp hline).1
    exact ⟨loopsAfter_succ hline, close_depth (enter_agrees (loopsAfter_agrees hn) (n + 1) line)⟩
  · intro n line hline
    refine ⟨openLoops_loop hline, openLoops_closing hline, ?_, openLoops_other hline⟩
    rintro ⟨hloop, hclosing⟩
    rw [not_loop_of_isClosing hclosing] at hloop
    cases hloop
  · have hfound : nestedLoops u.text =
        (List.range u.lines.length).filterMap (nestedAt? u.lines) := nestedLoops_eq u.text
    rw [Detector.issues, told_toIssues, Detector.findings, List.filter_append,
      nestedLoops_titled, findingsOfAll_untitled (by decide), List.append_nil, hfound,
      List.map_filterMap]
    refine congrArg (List.filterMap · (List.range u.lines.length)) (funext fun n => ?_)
    unfold nestedAt?
    by_cases hdeep : u.lines[n]?.any loop.occursIn ∧ 2 ≤ (openLoops u.lines n).length
    · rw [if_pos hdeep, if_pos hdeep]
      rfl
    · rw [if_neg hdeep, if_neg hdeep]
      rfl

end Performance

end Assay
