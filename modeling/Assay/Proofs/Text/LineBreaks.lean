import Assay.Proofs.Text.LineEnds
import Assay.Proofs.Text.Parts

/-!
# Line breaks

A line ends with a newline, a return or both.

* `breakLines`: a text cut at its line ends;
* `breakLines_eq_singleton`, `isOneLine_of_length`: which texts stand on one line;
* `breakLines_join`: the lines of texts that are joined at newlines.
-/

namespace Assay.Text

/-- A text that stands on one line. -/
def IsOneLine (s : String) : Prop :=
  '\n' ∉ s.toList ∧ '\r' ∉ s.toList

instance (s : String) : Decidable (IsOneLine s) :=
  inferInstanceAs (Decidable (_ ∧ _))

/-- A text cut at its line ends, of whatever kind they are. -/
def breakLines (s : String) : List String :=
  (lines (unifyNewlines s.toList)).map String.ofList

theorem unifyNewlinesFrom_base (s acc base : List Char) :
    unifyNewlinesFrom s (acc ++ base) = base.reverse ++ unifyNewlinesFrom s acc := by
  fun_induction unifyNewlinesFrom s acc with
  | case1 rest acc ih => rw [unifyNewlinesFrom, ← List.cons_append, ih]
  | case2 rest acc h ih =>
    rw [unifyNewlinesFrom, ← List.cons_append, ih]
    exact h
  | case3 c rest acc h h' ih =>
    rw [unifyNewlinesFrom, ← List.cons_append, ih]
    · exact h
    · exact h'
  | case4 acc => simp [unifyNewlinesFrom]

theorem unifyNewlinesFrom_eq (s acc : List Char) :
    unifyNewlinesFrom s acc = acc.reverse ++ unifyNewlines s :=
  unifyNewlinesFrom_base s [] acc

/-- Line ends are found apart in two texts, unless a return ends the first. -/
theorem unifyNewlinesFrom_append {s : List Char} (t acc : List Char)
    (hs : ∀ c ∈ s.getLast?, c ≠ '\r') :
    unifyNewlinesFrom (s ++ t) acc = unifyNewlinesFrom s acc ++ unifyNewlines t := by
  fun_induction unifyNewlinesFrom s acc with
  | case1 rest acc ih =>
    rw [List.cons_append, List.cons_append, unifyNewlinesFrom]
    apply ih
    cases rest with
    | nil => simp
    | cons x rest => simpa using hs
  | case2 rest acc h ih =>
    cases rest with
    | nil => simp at hs
    | cons x rest =>
      rw [List.cons_append, unifyNewlinesFrom]
      · apply ih
        simpa using hs
      · rintro _ ⟨⟩
        exact h rest rfl
  | case3 c rest acc h h' ih =>
    rw [List.cons_append, unifyNewlinesFrom]
    · apply ih
      cases rest with
      | nil => simp
      | cons x rest => simpa using hs
    · intro u hc
      exact absurd hc h'
    · exact h'
  | case4 acc => exact unifyNewlinesFrom_eq t acc

theorem mem_unifyNewlinesFrom (s acc : List Char) :
    '\n' ∈ unifyNewlinesFrom s acc ↔ '\n' ∈ acc ∨ '\n' ∈ s ∨ '\r' ∈ s := by
  fun_induction unifyNewlinesFrom s acc with
  | case1 rest acc ih => simp [ih]
  | case2 rest acc h ih => simp [ih]
  | case3 c rest acc h h' ih =>
    rw [ih]
    simp only [List.mem_cons]
    have hne : '\r' ≠ c := fun heq => h' heq.symm
    simp only [hne, false_or]
    tauto
  | case4 acc => simp

theorem unifyNewlines_eq_self {s : List Char} (hn : '\n' ∉ s) (hr : '\r' ∉ s) :
    unifyNewlines s = s := by
  have h := unifyNewlines_withReturns hr
  rwa [withReturns_eq_self hn] at h

theorem lines_append (s t : List Char) : lines (s ++ '\n' :: t) = lines s ++ lines t := by
  induction s with
  | nil => exact lines_newline t
  | cons c s ih =>
    by_cases hc : c = '\n'
    · subst hc
      rw [List.cons_append, lines_newline, lines_newline, ih, List.cons_append]
    · obtain ⟨l, ls, hlines⟩ := List.exists_cons_of_ne_nil (List.splitOn_ne_nil '\n' s)
      rw [List.cons_append, lines_cons hc, lines_cons hc, ih,
        show lines s = l :: ls from hlines]
      rfl

theorem length_lines_pos (s : List Char) : 1 ≤ (lines s).length :=
  List.length_pos_iff.mpr (List.splitOn_ne_nil '\n' s)

theorem lines_eq_singleton {s : List Char} (h : '\n' ∉ s) : lines s = [s] := by
  induction s with
  | nil => rfl
  | cons c s ih =>
    rw [List.mem_cons, not_or] at h
    rw [lines_cons (Ne.symm h.1), ih h.2]
    rfl

theorem notMem_of_length_lines {s : List Char} (h : (lines s).length = 1) : '\n' ∉ s := by
  intro hmem
  obtain ⟨a, b, rfl⟩ := List.append_of_mem hmem
  have ha := length_lines_pos a
  have hb := length_lines_pos b
  rw [lines_append, List.length_append] at h
  omega

theorem length_breakLines_pos (s : String) : 1 ≤ (breakLines s).length := by
  rw [breakLines, List.length_map]
  exact length_lines_pos _

theorem breakLines_eq_singleton {s : String} (h : IsOneLine s) : breakLines s = [s] := by
  rw [breakLines, unifyNewlines_eq_self h.1 h.2, lines_eq_singleton h.1, List.map_singleton,
    String.ofList_toList]

theorem isOneLine_of_length {s : String} (h : (breakLines s).length = 1) : IsOneLine s := by
  rw [breakLines, List.length_map] at h
  have hnone := notMem_of_length_lines h
  rw [unifyNewlines, mem_unifyNewlinesFrom] at hnone
  simp only [List.not_mem_nil, false_or, not_or] at hnone
  exact hnone

theorem unifyNewlines_newline (s : List Char) :
    unifyNewlines ('\n' :: s) = '\n' :: unifyNewlines s := by
  rw [unifyNewlines, unifyNewlinesFrom, unifyNewlinesFrom_eq]
  · rfl
  · simp
  · simp

/-- Texts joined at newlines have the lines of all of them, unless a return ends one of them. -/
theorem breakLines_join {p : String} {rest : List String}
    (h : ∀ q ∈ p :: rest, ∀ c ∈ q.toList.getLast?, c ≠ '\r') :
    breakLines (join (String.singleton '\n') (p :: rest)) = (p :: rest).flatMap breakLines := by
  induction rest generalizing p with
  | nil => simp [join]
  | cons q rest ih =>
    have hjoin : (join (String.singleton '\n') (p :: q :: rest)).toList =
        p.toList ++ '\n' :: (join (String.singleton '\n') (q :: rest)).toList := by
      rw [toList_join_cons, toList_join_cons, List.flatMap_cons]
      rfl
    have hunify : unifyNewlines (join (String.singleton '\n') (p :: q :: rest)).toList =
        unifyNewlines p.toList ++
          '\n' :: unifyNewlines (join (String.singleton '\n') (q :: rest)).toList := by
      rw [hjoin, unifyNewlines, unifyNewlinesFrom_append _ _ (h p List.mem_cons_self),
        unifyNewlines_newline]
      rfl
    rw [List.forall_mem_cons] at h
    rw [breakLines, hunify, lines_append, List.map_append, List.flatMap_cons, ← ih h.2]
    rfl

end Assay.Text
