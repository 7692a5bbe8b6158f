import Mathlib.Data.List.Nodup
import Mathlib.Data.List.Sort

/-!
# Lists in the order of their keys

* `pairwise_lt_mergeSort`: entries with keys of their own are put in strict order;
* `eq_of_pairwise_lt`: some entries stand in strict order in one way.
-/

namespace Assay

section

variable {α κ : Type} (key : α → κ)

theorem pairwise_lt_mergeSort [LinearOrder κ] {before : α → α → Bool}
    (hbefore : ∀ a b, before a b = true ↔ key a ≤ key b) {xs : List α}
    (hdistinct : (xs.map key).Nodup) :
    (xs.mergeSort before).Pairwise fun a b => key a < key b := by
  have hsorted : (xs.mergeSort before).Pairwise fun a b => before a b = true := by
    apply List.pairwise_mergeSort
    · intro a b d hab hbd
      rw [hbefore] at hab hbd ⊢
      exact hab.trans hbd
    · intro a b
      rw [Bool.or_eq_true, hbefore, hbefore]
      exact le_total (key a) (key b)
  have hne : (xs.mergeSort before).Pairwise fun a b => key a ≠ key b :=
    (List.pairwise_map.mp hdistinct).perm (List.mergeSort_perm xs before).symm fun hab => hab.symm
  refine (hsorted.and hne).imp ?_
  rintro a b ⟨hle, hab⟩
  exact lt_of_le_of_ne ((hbefore a b).mp hle) hab

theorem eq_of_pairwise_lt [Preorder κ] {xs ys : List α}
    (hxs : xs.Pairwise fun a b => key a < key b) (hys : ys.Pairwise fun a b => key a < key b)
    (h : ∀ a, a ∈ xs ↔ a ∈ ys) : xs = ys := by
  have hirrefl : Std.Irrefl fun a b => key a < key b := ⟨fun a => lt_irrefl (key a)⟩
  have hantisymm : Std.Antisymm fun a b => key a < key b :=
    ⟨fun a b hab hba => absurd hba (lt_asymm hab)⟩
  exact hxs.eq_of_mem_iff hys h

end

end Assay
