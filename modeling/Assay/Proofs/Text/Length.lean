import Mathlib
import Assay.Text.Basic

/-!
# How long texts are

* `length_clip_le`: a clipped text is no longer than its limit and three dots;
* `length_nat_le`, `length_int_le`: a number below a power of ten has no more digits than that;
* `length_join_le`: joined parts are no longer than all of them with a separator each;
* `weight`: the characters of some lines, each with its end.
-/

namespace Assay.Text

variable {α : Type}

theorem toString_text (s : String) : toString s = s := rfl

theorem length_clip_le (s : String) (limit : Nat) : (clip s limit).length ≤ limit + 3 := by
  unfold clip
  split
  · omega
  · have htake := List.length_take_le limit s.toList
    simp +ground only [String.length_append, String.length_ofList]
    omega

theorem length_nat_le {n k : Nat} (hk : 0 < k) (h : n < 10 ^ k) : (toString n).length ≤ k := by
  rw [Nat.toString_eq_repr]
  exact Nat.repr_length n k hk h

theorem length_int_le {n : Int} {k : Nat} (hk : 0 < k) (hn : 0 ≤ n) (h : n < 10 ^ k) :
    (toString n).length ≤ k := by
  obtain ⟨m, rfl⟩ := Int.eq_ofNat_of_zero_le hn
  exact length_nat_le hk (by exact_mod_cast h)

theorem length_join_le (separator : String) (parts : List String) :
    (join separator parts).length ≤ (parts.map fun p => p.length + separator.length).sum := by
  unfold join
  induction parts with
  | nil => simp
  | cons p rest ih =>
    cases rest with
    | nil => simp
    | cons q rest =>
      rw [String.intercalate_cons_cons, String.length_append, String.length_append, List.map_cons,
        List.sum_cons]
      omega

/-- Joined parts of a bounded length. -/
theorem length_join_le_mul {parts : List String} {bound : Nat} (separator : String)
    (h : ∀ p ∈ parts, p.length ≤ bound) :
    (join separator parts).length ≤ parts.length * (bound + separator.length) := by
  have hsum := List.sum_le_card_nsmul (parts.map fun p => p.length + separator.length)
    (bound + separator.length)
    (List.forall_mem_map.mpr fun p hp => Nat.add_le_add_right (h p hp) _)
  rw [List.length_map] at hsum
  exact (length_join_le separator parts).trans hsum

/-! ## Lines -/

/-- The characters of some lines, each with its end. -/
def weight (lines : List String) : Nat :=
  (lines.map fun l => l.length + 1).sum

@[simp]
theorem weight_nil : weight [] = 0 := rfl

@[simp]
theorem weight_cons (l : String) (lines : List String) :
    weight (l :: lines) = l.length + 1 + weight lines := by
  simp [weight]

@[simp]
theorem weight_append (a b : List String) : weight (a ++ b) = weight a + weight b := by
  simp [weight]

/-- Lines in groups of a bounded weight. -/
theorem weight_flatMap_le {f : α → List String} {xs : List α} {bound : Nat}
    (h : ∀ x ∈ xs, weight (f x) ≤ bound) : weight (xs.flatMap f) ≤ xs.length * bound := by
  induction xs with
  | nil => simp
  | cons x xs ih =>
    rw [List.forall_mem_cons] at h
    have hrest := ih h.2
    rw [List.flatMap_cons, weight_append, List.length_cons, Nat.succ_mul]
    omega

/-- Lines of a bounded length. -/
theorem weight_map_le {f : α → String} {xs : List α} {bound : Nat}
    (h : ∀ x ∈ xs, (f x).length ≤ bound) : weight (xs.map f) ≤ xs.length * (bound + 1) := by
  rw [List.map_eq_flatMap]
  refine weight_flatMap_le fun x hx => ?_
  have hx := h x hx
  simp only [weight_cons, weight_nil]
  omega

theorem length_lines_le (lines : List String) : (join "\n" lines).length ≤ weight lines :=
  length_join_le "\n" lines

end Assay.Text
