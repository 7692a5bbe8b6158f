import Mathlib.Data.List.Forall2
import Assay.Parallel

/-!
# Calls that end in any order

Where no call fails, every result goes into its own place, and what is in the places hangs on
nothing but which calls have ended.

* `resultsAt`: the results of some calls in their places;
* `place_ended`, `settle_ended`: one round adds the calls that end in it, and so do all;
* `collect_ended`: the results of a run in which no call fails;
* `atIndices`: the items whose calls have ended, in their order; `resultsAt_flatMap` goes through
  their results;
* `collect_results`, `collect_failure`: what a run ends in once every call has ended, if some calls
  may fail.
-/

namespace Assay.Parallel

variable {α β γ : Type}

/-- The results of the calls of some indices, in the places of their items. -/
def resultsAt (f : α → β) (items : List α) (indices : List Nat) : List (Option β) :=
  items.zipIdx.map fun (a, k) => if k ∈ indices then some (f a) else none

theorem getElem?_resultsAt (f : α → β) (items : List α) (indices : List Nat) (k : Nat) :
    (resultsAt f items indices)[k]? =
      (items[k]?).map fun a => if k ∈ indices then some (f a) else none := by
  simp [resultsAt, Function.comp_def]

theorem resultsAt_nil (f : α → β) (items : List α) :
    resultsAt f items [] = List.replicate items.length none := by
  refine List.ext_getElem? fun k => ?_
  rw [getElem?_resultsAt, List.getElem?_replicate]
  by_cases hk : k < items.length
  · simp [hk]
  · simp [hk]

/-- One call that ends fills its place, and one of no item fills none. -/
theorem resultsAt_snoc (f : α → β) (items : List α) (indices : List Nat) (i : Nat) :
    resultsAt f items (indices ++ [i]) =
      match items[i]? with
      | some a => (resultsAt f items indices).set i (some (f a))
      | none => resultsAt f items indices := by
  refine List.ext_getElem? fun k => ?_
  rw [getElem?_resultsAt]
  cases hi : items[i]? with
  | none =>
    dsimp only
    rw [getElem?_resultsAt]
    by_cases hk : k = i
    · simp [hk, hi]
    · simp [hk]
  | some a =>
    dsimp only
    rw [List.getElem?_set, getElem?_resultsAt]
    by_cases hk : i = k
    · subst hk
      have hlength : i < (resultsAt f items indices).length := by
        simpa [resultsAt] using (List.getElem?_eq_some_iff.mp hi).1
      simp [hi, hlength]
    · simp [hk, Ne.symm hk]

theorem place_ended (f : α → β) (items : List α) (before indices : List Nat) :
    place (fun a => .ok (f a)) items indices (resultsAt f items before) =
      .ok (resultsAt f items (before ++ indices)) := by
  induction indices generalizing before with
  | nil => rw [List.append_nil, place]
  | cons i indices ih =>
    have hstep := resultsAt_snoc f items before i
    rw [List.append_cons, ← ih, place]
    cases hi : items[i]? with
    | none =>
      rw [hi] at hstep
      rw [hstep]
    | some a =>
      rw [hi] at hstep
      rw [hstep]

theorem settle_ended (f : α → β) (items : List α) (before : List Nat) (ended : List (List Nat)) :
    settle (fun a => .ok (f a)) items (ended.map .ended) (resultsAt f items before) =
      .ok (resultsAt f items (before ++ ended.flatten)) := by
  induction ended generalizing before with
  | nil => rw [List.flatten_nil, List.append_nil, List.map_nil, settle]
  | cons indices ended ih =>
    rw [List.map_cons, settle, place_ended, List.flatten_cons, ← List.append_assoc]
    exact ih _

/-- A run in which no call fails gives the results of those that have ended. -/
theorem collect_ended (f : α → β) (items : List α) (ended : List (List Nat)) :
    collect (fun a => .ok (f a)) items (ended.map .ended) =
      .ok (resultsAt f items ended.flatten) := by
  unfold collect
  split
  · rename_i hempty
    rw [List.isEmpty_iff.mp hempty]
    rfl
  · rw [← resultsAt_nil f items, settle_ended, List.nil_append]

theorem inOrder_eq (n : Nat) : inOrder n = ((List.range n).map fun i => [i]).map .ended := by
  rw [inOrder, List.map_map]
  rfl

theorem mem_inOrder (n : Nat) : ∀ k < n, k ∈ ((List.range n).map fun i => [i]).flatten := by
  simp

/-! ## The items whose calls have ended -/

/-- The items of some indices, in their order. -/
def atIndices (items : List α) (indices : List Nat) : List α :=
  (items.zipIdx.filter fun (_, k) => k ∈ indices).map Prod.fst

theorem atIndices_sublist (items : List α) (indices : List Nat) :
    (atIndices items indices).Sublist items := by
  have h : ((items.zipIdx.filter fun (_, k) => k ∈ indices).map Prod.fst).Sublist
      (items.zipIdx.map Prod.fst) := List.filter_sublist.map Prod.fst
  rwa [List.zipIdx_map_fst] at h

/-- Once every call has ended, these are all items. -/
theorem atIndices_eq_self {items : List α} {indices : List Nat}
    (h : ∀ k < items.length, k ∈ indices) : atIndices items indices = items := by
  have hall : (items.zipIdx.filter fun (_, k) => k ∈ indices) = items.zipIdx := by
    refine List.filter_eq_self.mpr fun x hx => ?_
    obtain ⟨_, hlt, _⟩ := List.mem_zipIdx hx
    exact decide_eq_true (h x.2 (by simpa using hlt))
  rw [atIndices, hall, List.zipIdx_map_fst]

theorem resultsAt_flatMap (f : α → β) (g : β → List γ) (items : List α) (indices : List Nat) :
    ((resultsAt f items indices).flatMap fun r => (r.map g).getD []) =
      (atIndices items indices).flatMap fun a => g (f a) := by
  unfold resultsAt atIndices
  generalize items.zipIdx = pairs
  induction pairs with
  | nil => rfl
  | cons pair pairs ih =>
    obtain ⟨a, k⟩ := pair
    by_cases hk : k ∈ indices
    · simp [hk, ih]
    · simp [hk, ih]

/-! ## Calls that may fail -/

/-- What came of some items, in their order, if none of their calls fails. -/
def Yields (f : α → Except Failure β) (items : List α) (results : List β) : Prop :=
  List.Forall₂ (fun a b => f a = .ok b) items results

variable {f : α → Except Failure β} {items : List α} {results : List β}

theorem Yields.getElem?_zip (h : Yields f items results) (i : Nat) :
    (items[i]? = none ∧ (items.zip results)[i]? = none) ∨
      ∃ a b, items[i]? = some a ∧ (items.zip results)[i]? = some (a, b) ∧ f a = .ok b := by
  unfold Yields at h
  induction h generalizing i with
  | nil => exact .inl ⟨rfl, rfl⟩
  | @cons a b items results hab _ ih =>
    cases i with
    | zero => exact .inr ⟨a, b, rfl, rfl, hab⟩
    | succ i => simpa using ih i

/-- Where no call fails, the results are as good as given along with the items. -/
theorem place_zip (h : Yields f items results) (indices : List Nat) (slots : List (Option β)) :
    place f items indices slots =
      place (fun p : α × β => .ok p.2) (items.zip results) indices slots := by
  induction indices generalizing slots with
  | nil => rfl
  | cons i indices ih =>
    unfold place
    rcases h.getElem?_zip i with ⟨hnone, hzip⟩ | ⟨a, b, hsome, hzip, hok⟩
    · simp only [hnone, hzip, ih]
    · simp only [hsome, hzip, hok, ih]

theorem settle_zip (h : Yields f items results) (rounds : List Round) (slots : List (Option β)) :
    settle f items rounds slots =
      settle (fun p : α × β => .ok p.2) (items.zip results) rounds slots := by
  induction rounds generalizing slots with
  | nil => rfl
  | cons round rounds ih =>
    cases round with
    | calledOff => rfl
    | ended indices =>
      unfold settle
      rw [place_zip h]
      split
      · exact ih _
      · rfl

theorem resultsAt_all {g : α → β} {indices : List Nat} (h : ∀ k < items.length, k ∈ indices) :
    resultsAt g items indices = items.map fun a => some (g a) := by
  refine List.ext_getElem? fun k => ?_
  rw [getElem?_resultsAt, List.getElem?_map]
  by_cases hk : k < items.length
  · simp [h k hk]
  · simp [hk]

/-- Once every call has ended and none has failed, there are all results, in the order of the
items. -/
theorem collect_results (h : Yields f items results) {ended : List (List Nat)}
    (hended : ∀ k < items.length, k ∈ ended.flatten) :
    collect f items (ended.map .ended) = .ok (results.map some) := by
  have hlength : items.length = results.length := List.Forall₂.length_eq h
  have hzip : (items.zip results).length = items.length := by
    rw [List.length_zip, ← hlength, Nat.min_self]
  have hmap : (items.zip results).map (fun p => some p.2) = results.map some := by
    have hsnd : (items.zip results).map Prod.snd = results := List.map_snd_zip (by omega)
    rw [← hsnd, List.map_map, hsnd]
    rfl
  by_cases hempty : items = []
  · subst hempty
    obtain rfl := List.length_eq_zero_iff.mp hlength.symm
    rfl
  · have hzipne : items.zip results ≠ [] := by
      rwa [← List.length_pos_iff, hzip, List.length_pos_iff]
    have hcollect := collect_ended (Prod.snd : α × β → β) (items.zip results) ended
    rw [resultsAt_all (by rwa [hzip]), hmap, collect, if_neg (by simpa using hzipne), hzip,
      ← settle_zip h] at hcollect
    rw [collect, if_neg (by simpa using hempty), hcollect]

/-- A round ends in the failure of some call, or else no call that ends in it fails. -/
theorem place_cases (f : α → Except Failure β) (items : List α) (indices : List Nat)
    (slots : List (Option β)) :
    (∃ a ∈ items, ∃ e, f a = .error e ∧ place f items indices slots = .error e) ∨
      (∃ filled, place f items indices slots = .ok filled) ∧
        ∀ i ∈ indices, ∀ a, items[i]? = some a → ∃ b, f a = .ok b := by
  induction indices generalizing slots with
  | nil => exact .inr ⟨⟨slots, rfl⟩, by simp⟩
  | cons i indices ih =>
    unfold place
    cases hi : items[i]? with
    | none =>
      refine (ih slots).imp_right fun ⟨hfilled, hok⟩ => ⟨hfilled, ?_⟩
      refine List.forall_mem_cons.mpr ⟨fun a ha => ?_, hok⟩
      rw [hi] at ha
      cases ha
    | some a =>
      dsimp only
      cases hf : f a with
      | error e => exact .inl ⟨a, List.mem_of_getElem? hi, e, hf, rfl⟩
      | ok b =>
        refine (ih (slots.set i (some b))).imp_right fun ⟨hfilled, hok⟩ => ⟨hfilled, ?_⟩
        refine List.forall_mem_cons.mpr ⟨fun a' ha => ?_, hok⟩
        rw [hi] at ha
        obtain rfl := Option.some.inj ha
        exact ⟨b, hf⟩

theorem settle_cases (f : α → Except Failure β) (items : List α) (ended : List (List Nat))
    (slots : List (Option β)) :
    (∃ a ∈ items, ∃ e, f a = .error e ∧ settle f items (ended.map .ended) slots = .error e) ∨
      ∀ i ∈ ended.flatten, ∀ a, items[i]? = some a → ∃ b, f a = .ok b := by
  induction ended generalizing slots with
  | nil => exact .inr (by simp)
  | cons indices ended ih =>
    rw [List.map_cons, List.flatten_cons]
    unfold settle
    rcases place_cases f items indices slots with ⟨a, ha, e, hf, hplace⟩ | ⟨⟨filled, hplace⟩, hok⟩
    · exact .inl ⟨a, ha, e, hf, by rw [hplace]⟩
    · rw [hplace]
      refine (ih filled).imp_right fun hrest i hi => ?_
      rcases List.mem_append.mp hi with hi | hi
      · exact hok i hi
      · exact hrest i hi

/-- Once every call has ended and some have failed, the run ends in the failure of one of them. -/
theorem collect_failure {ended : List (List Nat)} {a : α} {e : Failure}
    (hended : ∀ k < items.length, k ∈ ended.flatten) (ha : a ∈ items) (hfails : f a = .error e) :
    ∃ a' ∈ items, ∃ e', f a' = .error e' ∧
      collect f items (ended.map .ended) = .error e' := by
  have hne : items ≠ [] := List.ne_nil_of_mem ha
  unfold collect
  rw [if_neg (by simpa using hne)]
  refine (settle_cases f items ended _).resolve_right fun hok => ?_
  obtain ⟨k, hk, hget⟩ := List.mem_iff_getElem.mp ha
  obtain ⟨b, hb⟩ := hok k (hended k hk) a (by rw [List.getElem?_eq_getElem hk, hget])
  rw [hfails] at hb
  cases hb

end Assay.Parallel
