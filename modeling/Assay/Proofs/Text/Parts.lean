import Mathlib.Data.List.Basic
import Assay.Text.Basic

/-!
# Texts in parts

A text may be made of parts with a mark between them that no part holds.

* `append_cons_inj`, `snoc_inj`: a part without the mark is found again at either end;
* `Text.cut_join`, `Text.join_cut`: parts joined and cut again, and a text cut and joined again;
* `Text.toList_join_cons`: the first part, and every other one behind a mark;
* `Text.join_append`: parts joined in two steps.
-/

namespace Assay

section

variable {α : Type} {c : α} {xs xs' ys ys' : List α}

/-- The first part ends at the first mark. -/
theorem append_cons_inj (hx : c ∉ xs) (hx' : c ∉ xs') (h : xs ++ c :: ys = xs' ++ c :: ys') :
    xs = xs' ∧ ys = ys' := by
  induction xs generalizing xs' with
  | nil =>
    cases xs' with
    | nil => exact ⟨rfl, (List.cons.inj h).2⟩
    | cons x' xs' => exact absurd (List.cons.inj h).1 (List.ne_of_not_mem_cons hx')
  | cons x xs ih =>
    cases xs' with
    | nil => exact absurd (List.cons.inj h).1.symm (List.ne_of_not_mem_cons hx)
    | cons x' xs' =>
      rw [List.cons_append, List.cons_append, List.cons.injEq] at h
      obtain ⟨hxs, hys⟩ := ih (fun hmem => hx (List.mem_cons_of_mem _ hmem))
        (fun hmem => hx' (List.mem_cons_of_mem _ hmem)) h.2
      exact ⟨by rw [h.1, hxs], hys⟩

/-- The last part begins at the last mark. -/
theorem snoc_inj (hy : c ∉ ys) (hy' : c ∉ ys') (h : xs ++ c :: ys = xs' ++ c :: ys') :
    xs = xs' ∧ ys = ys' := by
  have hreverse := congrArg List.reverse h
  simp only [List.reverse_append, List.reverse_cons, List.append_assoc, List.singleton_append]
    at hreverse
  obtain ⟨hys, hxs⟩ := append_cons_inj (by simpa using hy) (by simpa using hy') hreverse
  exact ⟨List.reverse_injective hxs, List.reverse_injective hys⟩

end

namespace Text

theorem cut_join {c : Char} {parts : List String} (hne : parts ≠ [])
    (h : ∀ x ∈ parts, c ∉ x.toList) : cut (join (String.singleton c) parts) c = parts := by
  have hsplit : (List.intercalate [c] (parts.map String.toList)).splitOn c =
      parts.map String.toList := by
    refine List.splitOn_intercalate c (fun l hl => ?_) (by simpa using hne)
    obtain ⟨x, hx, rfl⟩ := List.mem_map.mp hl
    exact h x hx
  rw [cut, join, String.toList_intercalate, String.toList_singleton, hsplit, List.map_map]
  exact (List.map_congr_left fun x _ => String.ofList_toList).trans (List.map_id' parts)

theorem join_cut (s : String) (c : Char) : join (String.singleton c) (cut s c) = s := by
  apply String.toList_injective
  rw [join, String.toList_intercalate, cut, List.map_map, String.toList_singleton]
  simp only [Function.comp_def, String.toList_ofList, List.map_id']
  exact List.intercalate_splitOn c

theorem cut_ne_nil (s : String) (c : Char) : cut s c ≠ [] := by
  rw [cut, ne_eq, List.map_eq_nil_iff]
  exact List.splitOn_ne_nil c s.toList

theorem notMem_of_mem_splitOn {c : Char} {s part : List Char} (h : part ∈ s.splitOn c) :
    c ∉ part := by
  induction s generalizing part with
  | nil =>
    obtain rfl : part = [] := by simpa using h
    exact List.not_mem_nil
  | cons x s ih =>
    rw [List.splitOn_cons_eq_if_modifyHead] at h
    split at h
    · rcases List.mem_cons.mp h with rfl | h
      · exact List.not_mem_nil
      · exact ih h
    · rename_i hx
      obtain ⟨first, others, hparts⟩ := List.exists_cons_of_ne_nil (List.splitOn_ne_nil c s)
      rw [hparts] at h ih
      rcases List.mem_cons.mp h with rfl | h
      · rw [List.mem_cons, not_or]
        exact ⟨fun hc => hx (beq_iff_eq.mpr hc.symm), ih List.mem_cons_self⟩
      · exact ih (List.mem_cons_of_mem first h)

/-- No part holds the mark. -/
theorem notMem_of_mem_cut {s part : String} {c : Char} (h : part ∈ cut s c) : c ∉ part.toList := by
  obtain ⟨l, hl, rfl⟩ := List.mem_map.mp h
  rw [String.toList_ofList]
  exact notMem_of_mem_splitOn hl

/-- The first part, and every other one behind a mark. -/
theorem toList_join_cons (c : Char) (p : String) (rest : List String) :
    (join (String.singleton c) (p :: rest)).toList =
      p.toList ++ rest.flatMap fun q => c :: q.toList := by
  unfold join
  induction rest generalizing p with
  | nil => simp
  | cons q rest ih =>
    rw [String.intercalate_cons_cons, String.toList_append, String.toList_append,
      String.toList_singleton, ih, List.flatMap_cons, List.append_assoc]
    rfl

/-- The parts in front may be joined first. -/
theorem join_append (c : Char) (p : String) (front rest : List String) :
    join (String.singleton c) (p :: front ++ rest) =
      join (String.singleton c) (join (String.singleton c) (p :: front) :: rest) := by
  apply String.toList_injective
  rw [List.cons_append, toList_join_cons, toList_join_cons, toList_join_cons, List.flatMap_append,
    List.append_assoc]

end Text

end Assay
