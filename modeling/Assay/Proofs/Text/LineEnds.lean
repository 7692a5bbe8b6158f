import Mathlib.Data.List.Forall2
import Assay.Text.Basic

/-!
# Line ends

Some systems end a line with a return and a newline, others with the newline alone.

* `withReturns`: a text with a return before every newline;
* `lines_withReturns`: its lines are those of the text, with a return at their ends or without;
* `unifyNewlines_withReturns`, `filter_withReturns`: two ways back to a text that has no returns of
  its own.
-/

namespace Assay.Text

/-- A text with a return before every newline. -/
def withReturns (s : List Char) : List Char :=
  s.flatMap fun c => if c = '\n' then ['\r', '\n'] else [c]

theorem withReturns_newline (s : List Char) :
    withReturns ('\n' :: s) = '\r' :: '\n' :: withReturns s := rfl

theorem withReturns_cons {c : Char} (h : c ≠ '\n') (s : List Char) :
    withReturns (c :: s) = c :: withReturns s := by
  rw [withReturns, List.flatMap_cons, if_neg h]
  rfl

theorem withReturns_append (s t : List Char) :
    withReturns (s ++ t) = withReturns s ++ withReturns t :=
  List.flatMap_append

theorem withReturns_eq_self {s : List Char} (h : '\n' ∉ s) : withReturns s = s := by
  induction s with
  | nil => rfl
  | cons c s ih =>
    rw [List.mem_cons, not_or] at h
    rw [withReturns_cons (Ne.symm h.1), ih h.2]

/-- Where newlines are blanks, so are the returns before them. -/
theorem isBlank_of_mem_withReturns {s : List Char} (h : ∀ c ∈ s, isBlank c = true) :
    ∀ c ∈ withReturns s, isBlank c = true := by
  intro c hc
  obtain ⟨d, hd, hc⟩ := List.mem_flatMap.mp hc
  split at hc
  · rcases List.mem_pair.mp hc with rfl | rfl
    · rfl
    · rfl
  · rw [List.mem_singleton.mp hc]
    exact h d hd

/-! ## Ways back -/

theorem filter_withReturns {s : List Char} (h : '\r' ∉ s) :
    (withReturns s).filter (· != '\r') = s := by
  induction s with
  | nil => rfl
  | cons c s ih =>
    rw [List.mem_cons, not_or] at h
    by_cases hc : c = '\n'
    · subst hc
      rw [withReturns_newline, List.filter_cons_of_neg (by decide),
        List.filter_cons_of_pos (by decide), ih h.2]
    · have hkeep : (c != '\r') = true := bne_iff_ne.mpr (Ne.symm h.1)
      rw [withReturns_cons hc, List.filter_cons_of_pos (p := (· != '\r')) hkeep, ih h.2]

theorem unifyNewlinesFrom_withReturns {s : List Char} (h : '\r' ∉ s) (acc : List Char) :
    unifyNewlinesFrom (withReturns s) acc = acc.reverse ++ s := by
  induction s generalizing acc with
  | nil => exact (List.append_nil _).symm
  | cons c s ih =>
    rw [List.mem_cons, not_or] at h
    by_cases hc : c = '\n'
    · subst hc
      rw [withReturns_newline, unifyNewlinesFrom, ih h.2]
      simp
    · have hreturn : c ≠ '\r' := Ne.symm h.1
      rw [withReturns_cons hc, unifyNewlinesFrom, ih h.2]
      · simp
      · intro rest hr
        exact absurd hr hreturn
      · exact hreturn

theorem unifyNewlines_withReturns {s : List Char} (h : '\r' ∉ s) :
    unifyNewlines (withReturns s) = s :=
  unifyNewlinesFrom_withReturns h []

/-! ## Lines -/

/-- The second line is the first, with a return at its end or without. -/
def Returned (line line' : List Char) : Prop :=
  line' = line ∨ line' = line ++ ['\r']

theorem Returned.cons {line line' : List Char} (h : Returned line line') (c : Char) :
    Returned (c :: line) (c :: line') := by
  rcases h with rfl | rfl
  · exact Or.inl rfl
  · exact Or.inr rfl

theorem lines_newline (s : List Char) : lines ('\n' :: s) = [] :: lines s :=
  List.splitOn_cons_eq_if_modifyHead '\n' s

theorem lines_cons {c : Char} (h : c ≠ '\n') (s : List Char) :
    lines (c :: s) = (lines s).modifyHead (c :: ·) := by
  rw [lines, List.splitOn_cons_eq_if_modifyHead, if_neg (by simpa using h)]
  rfl

theorem forall₂_modifyHead {c : Char} {xs ys : List (List Char)} (h : List.Forall₂ Returned xs ys) :
    List.Forall₂ Returned (xs.modifyHead (c :: ·)) (ys.modifyHead (c :: ·)) := by
  cases h with
  | nil => exact .nil
  | cons hfirst hrest => exact .cons (hfirst.cons c) hrest

/-- The lines of a text and of the text with returns are the same up to a return at their ends. -/
theorem lines_withReturns (s : List Char) :
    List.Forall₂ Returned (lines s) (lines (withReturns s)) := by
  induction s with
  | nil => exact .cons (Or.inl rfl) .nil
  | cons c s ih =>
    by_cases hc : c = '\n'
    · subst hc
      rw [withReturns_newline, lines_newline, lines_cons (by decide), lines_newline]
      exact .cons (Or.inr rfl) ih
    · rw [withReturns_cons hc, lines_cons hc, lines_cons hc]
      exact forall₂_modifyHead ih

end Assay.Text
