import Mathlib.Data.List.Forall2
import Mathlib.Data.List.Nodup
import Mathlib.Data.List.Perm.Subperm
import Assay.Report.Priority

/-!
# Ids that differ

* `numberedId_injective`: numbered ids of one id differ;
* `freeId_spec`: the free id is the first numbered one, from the number asked for on, that is not
  taken;
* `uniqueIds_same`: issues keep all but their ids;
* `uniqueIds_nodup`: their ids differ;
* `uniqueIds_eq_self`: and stay as they are if they differed before.
-/

namespace Assay

theorem toString_injective {m n : Nat} (h : toString m = toString n) : m = n := by
  have hd := congrArg String.toList h
  simp only [Nat.toString_eq_repr, Nat.toList_repr] at hd
  simpa using congrArg (fun ds => Nat.ofDigitChars 10 ds 0) hd

theorem numberedId_injective {id : String} {m n : Nat} (h : numberedId id m = numberedId id n) :
    m = n := by
  have hl := congrArg String.toList h
  simp only [numberedId, toString, String.toList_append, List.append_assoc,
    List.append_cancel_left_eq] at hl
  exact toString_injective (String.toList_injective hl)

/-- A search stops at the first numbered id that is not taken, or when it runs out of steps. -/
theorem freeIdFrom_spec (taken : List String) (id : String) (fuel n : Nat) :
    ∃ k ≤ fuel, freeIdFrom taken id fuel n = numberedId id (n + k) ∧
      (∀ j < k, numberedId id (n + j) ∈ taken) ∧ (k < fuel → numberedId id (n + k) ∉ taken) := by
  induction fuel generalizing n with
  | zero => exact ⟨0, Nat.le_refl _, rfl, by omega, by omega⟩
  | succ fuel ih =>
    unfold freeIdFrom
    by_cases h : numberedId id n ∈ taken
    · obtain ⟨k, hk, heq, hbefore, hat⟩ := ih (n + 1)
      rw [if_pos (List.contains_iff_mem.mpr h)]
      refine ⟨k + 1, by omega, by rw [heq]; congr 1; omega, ?_, ?_⟩
      · intro j hj
        cases j with
        | zero => exact h
        | succ j =>
          rw [show n + (j + 1) = n + 1 + j by omega]
          exact hbefore j (by omega)
      · intro hlt
        rw [show n + (k + 1) = n + 1 + k by omega]
        exact hat (by omega)
    · rw [if_neg (by simpa using h)]
      exact ⟨0, by omega, rfl, by omega, fun _ => h⟩

/-- Of one more numbered ids than are taken, one is free. -/
theorem exists_free (taken : List String) (id : String) (n : Nat) :
    ¬ ∀ j < taken.length + 1, numberedId id (n + j) ∈ taken := by
  intro h
  let candidates := (List.range (taken.length + 1)).map fun j => numberedId id (n + j)
  have hnodup : candidates.Nodup := by
    apply List.Nodup.map_on _ List.nodup_range
    intro a _ b _ hab
    have := numberedId_injective hab
    omega
  have hsub : candidates ⊆ taken := by
    intro x hx
    obtain ⟨j, hj, rfl⟩ := List.mem_map.mp hx
    exact h j (List.mem_range.mp hj)
  have hle := (hnodup.subperm hsub).length_le
  simp only [candidates, List.length_map, List.length_range] at hle
  omega

/-- The free id is the first numbered one that is not taken. -/
theorem freeId_spec (taken : List String) (id : String) (n : Nat) :
    ∃ k, n ≤ k ∧ freeId taken id n = numberedId id k ∧ numberedId id k ∉ taken ∧
      ∀ j, n ≤ j → j < k → numberedId id j ∈ taken := by
  obtain ⟨k, hk, heq, hbefore, hat⟩ := freeIdFrom_spec taken id (taken.length + 1) n
  have hlt : k < taken.length + 1 := by
    by_contra hn
    obtain rfl : k = taken.length + 1 := by omega
    exact exists_free taken id n hbefore
  refine ⟨n + k, by omega, heq, hat hlt, ?_⟩
  intro j hnj hjk
  have := hbefore (j - n) (by omega)
  rwa [show n + (j - n) = j by omega] at this

theorem freeId_notMem (taken : List String) (id : String) (n : Nat) :
    freeId taken id n ∉ taken := by
  obtain ⟨k, _, heq, hfree, _⟩ := freeId_spec taken id n
  rwa [heq]

/-- One issue is another with an id of its own. -/
def Issue.SameButId (i j : Issue) : Prop :=
  j = { i with id := j.id }

theorem uniqueIdsFrom_same (seen taken : List String) (issues : List Issue) :
    List.Forall₂ Issue.SameButId issues (uniqueIdsFrom seen taken issues) := by
  induction issues generalizing seen taken with
  | nil => exact .nil
  | cons i rest ih =>
    unfold uniqueIdsFrom
    dsimp only
    split
    · exact .cons rfl (ih _ _)
    · exact .cons rfl (ih _ _)

/-- Issues keep all but their ids. -/
theorem uniqueIds_same (issues : List Issue) :
    List.Forall₂ Issue.SameButId issues (uniqueIds issues) :=
  uniqueIdsFrom_same _ _ issues

/-- An id that may come out: one of the issues to come that was not seen before, or one that was
not taken. -/
def MayComeOut (seen taken : List String) (issues : List Issue) (x : String) : Prop :=
  (x ∈ issues.map (·.id) ∧ x ∉ seen) ∨ x ∉ taken

theorem MayComeOut.cons (more : List String) {seen taken : List String} {rest : List Issue}
    {i : Issue} {x : String} (h : MayComeOut (i.id :: seen) (more ++ taken) rest x) :
    MayComeOut seen taken (i :: rest) x := by
  rcases h with ⟨hmem, hnot⟩ | hnot
  · exact Or.inl ⟨List.mem_cons_of_mem _ hmem, fun hs => hnot (List.mem_cons_of_mem _ hs)⟩
  · exact Or.inr fun ht => hnot (List.mem_append_right _ ht)

/-- Where all ids to come are taken, no id comes out twice. -/
theorem uniqueIdsFrom_ids (seen taken : List String) (issues : List Issue)
    (h : ∀ i ∈ issues, i.id ∈ taken) :
    ((uniqueIdsFrom seen taken issues).map (·.id)).Nodup ∧
      ∀ x ∈ (uniqueIdsFrom seen taken issues).map (·.id), MayComeOut seen taken issues x := by
  induction issues generalizing seen taken with
  | nil => simp [uniqueIdsFrom]
  | cons i rest ih =>
    have hi : i.id ∈ taken := h i (by simp)
    have hrest : ∀ j ∈ rest, j.id ∈ taken := fun j hj => h j (List.mem_cons_of_mem i hj)
    unfold uniqueIdsFrom
    dsimp only
    split
    · rename_i hcount
      obtain ⟨hnodup, hids⟩ := ih (i.id :: seen) taken hrest
      rw [List.map_cons, List.nodup_cons, List.forall_mem_cons]
      refine ⟨⟨fun hmem => ?_, hnodup⟩, ?_, fun x hx => MayComeOut.cons [] (hids x hx)⟩
      · rcases hids _ hmem with ⟨_, hnot⟩ | hnot
        · exact hnot (by simp)
        · exact hnot hi
      · exact Or.inl ⟨by simp, List.count_eq_zero.mp hcount⟩
    · have hfree := freeId_notMem taken i.id (seen.count i.id + 1)
      obtain ⟨hnodup, hids⟩ := ih (i.id :: seen) (freeId taken i.id (seen.count i.id + 1) :: taken)
        fun j hj => List.mem_cons_of_mem _ (hrest j hj)
      rw [List.map_cons, List.nodup_cons, List.forall_mem_cons]
      refine ⟨⟨fun hmem => ?_, hnodup⟩, Or.inr hfree, fun x hx => MayComeOut.cons [_] (hids x hx)⟩
      rcases hids _ hmem with ⟨hmem, _⟩ | hnot
      · obtain ⟨j, hj, hid⟩ := List.mem_map.mp hmem
        have hj := hrest j hj
        rw [hid] at hj
        exact hfree hj
      · exact hnot (by simp)

/-- No two ids are the same. -/
theorem uniqueIds_nodup (issues : List Issue) : ((uniqueIds issues).map (·.id)).Nodup := by
  have h : ∀ i ∈ issues, i.id ∈ issues.map (·.id) := fun _ hi => List.mem_map_of_mem hi
  exact (uniqueIdsFrom_ids [] (issues.map (·.id)) issues h).1

theorem uniqueIdsFrom_eq_self {seen taken : List String} {issues : List Issue}
    (hnodup : (issues.map (·.id)).Nodup) (hseen : ∀ i ∈ issues, i.id ∉ seen) :
    uniqueIdsFrom seen taken issues = issues := by
  induction issues generalizing seen with
  | nil => rfl
  | cons i rest ih =>
    rw [List.map_cons, List.nodup_cons] at hnodup
    rw [List.forall_mem_cons] at hseen
    obtain ⟨hi, hrest⟩ := hnodup
    have hnot : ∀ j ∈ rest, j.id ∉ i.id :: seen := by
      intro j hj hmem
      rcases List.mem_cons.mp hmem with hid | hmem
      · exact hi (hid ▸ List.mem_map_of_mem hj)
      · exact hseen.2 j hj hmem
    rw [uniqueIdsFrom, if_pos (List.count_eq_zero.mpr hseen.1), ih hrest hnot]

/-- Ids that differ are left as they are. -/
theorem uniqueIds_eq_self {issues : List Issue} (h : (issues.map (·.id)).Nodup) :
    uniqueIds issues = issues :=
  uniqueIdsFrom_eq_self h (by simp)

end Assay
