import Mathlib.Data.List.Perm.Basic
import Assay.Parallel

/-!
# Pools of workers

Some workers make calls that start in the order of their items, and now and then someone looks
which calls have ended. What is seen are rounds, and the workers decide no more than which rounds
there can be.

* `Pool`, `Pool.Step`: the calls by how far they are, and what can happen next;
* `Pool.step_valid`, `Pool.reached_valid`: no call is lost or made twice, and no more calls run at
  once than there are workers;
* `Pool.Finishes`: a run up to the time when every call was seen to end;
* `Pool.Finishes.seen_perm`: by then each was seen once;
* `Pool.exists_finishes`: whatever number of workers is asked for, all calls come to their end.
-/

namespace Assay.Parallel

/-- Calls by the indices of their items. -/
structure Pool where
  /-- The calls that have not started, in the order of their items. -/
  waiting : List Nat
  running : List Nat
  /-- The calls that have ended since someone last looked. -/
  done : List Nat
  /-- The rounds seen so far. -/
  seen : List (List Nat)

namespace Pool

/-- A pool of `n` calls before any of them starts. -/
def start (n : Nat) : Pool :=
  ⟨List.range n, [], [], []⟩

/-- What can happen next in a pool for which some number of workers is asked. -/
inductive Step (wanted : Int) : Pool → Pool → Prop
  | begin {p : Pool} (i : Nat) (rest : List Nat) (next : p.waiting = i :: rest)
      (room : (p.running.length : Int) < workers wanted) :
      Step wanted p { p with waiting := rest, running := i :: p.running }
  | finish {p : Pool} (i : Nat) (runs : i ∈ p.running) :
      Step wanted p { p with running := p.running.erase i, done := i :: p.done }
  /-- Someone looks, and sees what has ended in any order; it may be nothing. -/
  | look {p : Pool} (indices : List Nat) (ended : indices.Perm p.done) :
      Step wanted p { p with done := [], seen := p.seen ++ [indices] }

/-- The pools that a pool of `n` calls can become. -/
inductive Reached (wanted : Int) (n : Nat) : Pool → Prop
  | start : Reached wanted n (start n)
  | next {p q : Pool} : Reached wanted n p → Step wanted p q → Reached wanted n q

/-- No call is lost or made twice, and no more run at once than there are workers. -/
structure Valid (wanted : Int) (n : Nat) (p : Pool) : Prop where
  all : (p.waiting ++ p.running ++ p.done ++ p.seen.flatten).Perm (List.range n)
  bounded : (p.running.length : Int) ≤ workers wanted

theorem one_le_workers (wanted : Int) : 1 ≤ workers wanted :=
  Int.le_max_left 1 wanted

theorem start_valid (wanted : Int) (n : Nat) : Valid wanted n (start n) := by
  have := one_le_workers wanted
  refine ⟨by simp [start], ?_⟩
  simp only [start, List.length_nil]
  omega

theorem step_valid {wanted : Int} {n : Nat} {p q : Pool} (h : Step wanted p q)
    (hp : Valid wanted n p) : Valid wanted n q := by
  obtain ⟨hall, hbounded⟩ := hp
  cases h with
  | begin i rest next room =>
    refine ⟨List.Perm.trans ?_ hall, ?_⟩
    · rw [next]
      simp only [List.cons_append, List.append_assoc]
      exact List.perm_middle
    · simp only [List.length_cons]
      omega
  | finish i runs =>
    refine ⟨List.Perm.trans ?_ hall, ?_⟩
    · have hruns : (p.running.erase i ++ i :: p.done).Perm (p.running ++ p.done) :=
        List.perm_middle.trans ((List.perm_cons_erase runs).symm.append_right p.done)
      simp only [List.append_assoc]
      refine List.Perm.append_left _ ?_
      rw [← List.append_assoc, ← List.append_assoc]
      exact hruns.append_right _
    · have := List.length_erase_le (a := i) (l := p.running)
      simp only
      omega
  | look indices ended =>
    refine ⟨List.Perm.trans ?_ hall, hbounded⟩
    simp only [List.append_assoc, List.flatten_append, List.flatten_cons, List.flatten_nil,
      List.append_nil]
    refine List.Perm.append_left _ (List.Perm.append_left _ ?_)
    exact (List.perm_append_comm).trans (ended.append_right _)

theorem reached_valid {wanted : Int} {n : Nat} {p : Pool} (h : Reached wanted n p) :
    Valid wanted n p := by
  induction h with
  | start => exact start_valid wanted n
  | next _ step ih => exact step_valid step ih

/-! ## Runs that finish -/

/-- Every call was seen to end. -/
structure Over (p : Pool) : Prop where
  waiting : p.waiting = []
  running : p.running = []
  done : p.done = []

/-- The rounds of some lists of indices are what is seen of a whole run of `n` calls. -/
def Finishes (wanted : Int) (n : Nat) (ended : List (List Nat)) : Prop :=
  ∃ p, Reached wanted n p ∧ p.Over ∧ p.seen = ended

/-- Every call was seen to end once. -/
theorem Finishes.seen_perm {wanted : Int} {n : Nat} {ended : List (List Nat)}
    (h : Finishes wanted n ended) : ended.flatten.Perm (List.range n) := by
  obtain ⟨p, hreached, hover, rfl⟩ := h
  have hall := (reached_valid hreached).all
  rwa [hover.waiting, hover.running, hover.done] at hall

theorem Finishes.mem_seen {wanted : Int} {n : Nat} {ended : List (List Nat)}
    (h : Finishes wanted n ended) : ∀ k < n, k ∈ ended.flatten :=
  fun _ hk => h.seen_perm.mem_iff.mpr (List.mem_range.mpr hk)

/-- What is still to be done. -/
def work (p : Pool) : Nat :=
  3 * p.waiting.length + 2 * p.running.length + p.done.length

/-- A pool that is not over can always get on with its work: a worker is free, or a call runs, or
one that has ended was not seen. -/
theorem exists_step (wanted : Int) {p : Pool} (h : ¬ p.Over) :
    ∃ q, Step wanted p q ∧ q.work < p.work := by
  have hworkers := one_le_workers wanted
  cases hrunning : p.running with
  | cons i rest =>
    have hruns : i ∈ p.running := by simp [hrunning]
    refine ⟨_, .finish i hruns, ?_⟩
    simp only [work, hrunning, List.erase_cons_head, List.length_cons]
    omega
  | nil =>
    cases hwaiting : p.waiting with
    | cons i rest =>
      have hroom : (p.running.length : Int) < workers wanted := by
        rw [hrunning, List.length_nil]
        omega
      refine ⟨_, .begin i rest hwaiting hroom, ?_⟩
      simp only [work, hrunning, hwaiting, List.length_cons]
      omega
    | nil =>
      refine ⟨_, .look p.done (List.Perm.refl _), ?_⟩
      have hdone : p.done ≠ [] := fun hdone => h ⟨hwaiting, hrunning, hdone⟩
      have := List.length_pos_of_ne_nil hdone
      simp only [work, List.length_nil]
      omega

theorem exists_over {wanted : Int} {n : Nat} {p : Pool} (h : Reached wanted n p) :
    ∃ q, Reached wanted n q ∧ q.Over := by
  induction hwork : p.work using Nat.strongRecOn generalizing p with
  | ind k ih =>
    by_cases hover : p.Over
    · exact ⟨p, h, hover⟩
    · obtain ⟨q, hstep, hless⟩ := exists_step wanted hover
      exact ih q.work (hwork ▸ hless) (h.next hstep) rfl

/-- **All calls come to their end**, whatever number of workers is asked for: there is always at
least one. -/
theorem exists_finishes (wanted : Int) (n : Nat) : ∃ ended, Finishes wanted n ended := by
  obtain ⟨p, hreached, hover⟩ := exists_over (.start : Reached wanted n (start n))
  exact ⟨p.seen, p, hreached, hover, rfl⟩

end Pool

end Assay.Parallel
