import Assay.Proofs.Outcome
import Assay.Proofs.Report.Identity
import Assay.Proofs.Report.Measure
import Assay.Proofs.Report.Order
import Assay.Report.Build

/-!
# What a report says about its issues

* `IsFirstSeen`: the different items of a list, in the order in which they first come;
* `Report.Describes`: what holds of a report of the issues found in some files;
* `Report.build_eq_ok`, `Report.build_made`: what a report was made of;
* `Report.build_foreign`: a report is refused for the first issue about no file at hand;
* `Report.build_contract`: the three ways in which the making of a report ends, and when.
-/

namespace Assay

/-! ## Items in the order in which they first come -/

/-- The different items of a list, in the order in which they first come. -/
structure IsFirstSeen {α : Type} [DecidableEq α] (xs all : List α) : Prop where
  same : ∀ x, x ∈ xs ↔ x ∈ all
  inOrder : xs.Pairwise fun x y => all.idxOf x < all.idxOf y

section

variable {α β : Type} [DecidableEq α] [DecidableEq β]

theorem idxOf_lt_of_filter {p : α → Bool} {xs : List α} {x y : α} (hx : p x = true)
    (hy : p y = true) (h : (xs.filter p).idxOf x < (xs.filter p).idxOf y) :
    xs.idxOf x < xs.idxOf y := by
  induction xs with
  | nil => simp at h
  | cons z xs ih =>
    by_cases hz : p z = true
    · rw [List.filter_cons_of_pos hz] at h
      by_cases hzy : z = y
      · simp [hzy] at h
      · rw [List.idxOf_cons_ne _ hzy] at h ⊢
        by_cases hzx : z = x
        · simp [hzx]
        · rw [List.idxOf_cons_ne _ hzx] at h ⊢
          exact Nat.succ_lt_succ (ih (Nat.lt_of_succ_lt_succ h))
    · have hzx : z ≠ x := fun he => hz (he ▸ hx)
      have hzy : z ≠ y := fun he => hz (he ▸ hy)
      rw [List.filter_cons_of_neg hz] at h
      rw [List.idxOf_cons_ne _ hzx, List.idxOf_cons_ne _ hzy]
      exact Nat.succ_lt_succ (ih h)

theorem isFirstSeen_eraseDups (xs : List α) : IsFirstSeen xs.eraseDups xs := by
  refine ⟨fun x => List.mem_eraseDups, ?_⟩
  induction hn : xs.length using Nat.strongRecOn generalizing xs with
  | ind n ih =>
    cases xs with
    | nil => simp
    | cons a as =>
      rw [List.eraseDups_cons, List.pairwise_cons]
      have hne : ∀ y ∈ (as.filter fun b => !b == a).eraseDups, a ≠ y := by
        intro y hy
        have := (List.mem_filter.mp (List.mem_eraseDups.mp hy)).2
        rintro rfl
        simp at this
      refine ⟨fun y hy => ?_, ?_⟩
      · rw [List.idxOf_cons_self, List.idxOf_cons_ne _ (hne y hy)]
        omega
      · have hlt : (as.filter fun b => !b == a).length < n := by
          have := List.length_filter_le (fun b => !b == a) as
          simp only [List.length_cons] at hn
          omega
        refine (ih _ hlt _ rfl).imp_of_mem ?_
        intro x y hx hy hxy
        have hx := hne x hx
        have hy := hne y hy
        rw [List.idxOf_cons_ne _ hx, List.idxOf_cons_ne _ hy]
        refine Nat.succ_lt_succ (idxOf_lt_of_filter ?_ ?_ hxy)
        · simpa using hx.symm
        · simpa using hy.symm

theorem idxOf_map {f : α → β} (hf : ∀ x y, f x = f y → x = y) (xs : List α) (x : α) :
    (xs.map f).idxOf (f x) = xs.idxOf x := by
  induction xs with
  | nil => rfl
  | cons y xs ih =>
    by_cases hyx : y = x
    · simp [hyx]
    · rw [List.map_cons, List.idxOf_cons_ne _ hyx, List.idxOf_cons_ne _ fun he => hyx (hf _ _ he),
        ih]

theorem IsFirstSeen.map {f : α → β} (hf : ∀ x y, f x = f y → x = y) {xs all : List α}
    (h : IsFirstSeen xs all) : IsFirstSeen (xs.map f) (all.map f) := by
  refine ⟨fun y => ?_, List.pairwise_map.mpr (h.inOrder.imp fun hxy => ?_)⟩
  · simp only [List.mem_map, h.same]
  · rwa [idxOf_map hf, idxOf_map hf]

end

theorem Language.name_injective (k l : Language) (h : k.name = l.name) : k = l := by
  cases k <;> cases l <;> first | rfl | exact absurd h (by decide)

theorem SourceUnit.totalLines_eq_sum (units : List SourceUnit) :
    totalLines units = (units.map fun u => u.lines.length).sum := by
  rw [List.sum_eq_foldl_nat, List.foldl_map]
  rfl

/-! ## Issues of each severity -/

theorem countP_of_same (v : Severity) {issues renamed : List Issue}
    (h : List.Forall₂ Issue.SameButId issues renamed) :
    renamed.countP (fun i => i.severity == v) = issues.countP fun i => i.severity == v := by
  induction h with
  | nil => rfl
  | cons hsame _ ih =>
    rw [List.countP_cons, List.countP_cons, ih, hsame]

theorem breakdownOf_lookup (issues : List Issue) (v : Severity) :
    (breakdownOf issues).lookup v.name =
      some ((issues.countP fun i => i.severity == v : Nat) : Int) := by
  cases v <;> rfl

theorem breakdownOf_sum (issues : List Issue) :
    ((breakdownOf issues).map Prod.snd).sum = issues.length := by
  induction issues with
  | nil => rfl
  | cons i issues ih =>
    simp only [breakdownOf, List.map_cons, List.map_nil, List.sum_cons, List.sum_nil,
      List.countP_cons, List.length_cons] at ih ⊢
    cases i.severity <;> simp <;> omega

/-! ## The contract -/

/-- An issue is about the project or one of some files. -/
def Issue.Placed (units : List SourceUnit) (i : Issue) : Prop :=
  i.file = projectFile ∨ ∃ u ∈ units, u.path = i.file

theorem Issue.isAbout_iff (units : List SourceUnit) (i : Issue) :
    i.isAbout (units.map (·.path)) = true ↔ i.Placed units := by
  simp [isAbout, Placed]

/-- What holds of a report of the issues found in some files. -/
structure Report.Describes (units : List SourceUnit) (issues : List Issue) (r : Report) :
    Prop where
  /-- The issues keep all but their ids, -/
  renamed : List.Forall₂ Issue.SameButId issues (uniqueIds issues)
  /-- and none is lost or doubled. -/
  perm : r.issues.Perm (uniqueIds issues)
  nodup : (r.issues.map (·.id)).Nodup
  /-- Severities do not rise, and among issues of one severity neither do priorities. -/
  sorted : r.issues.Pairwise fun i j => j.severity.rank < i.severity.rank ∨
    (j.severity.rank = i.severity.rank ∧ j.kind.priority ≤ i.kind.priority)
  /-- Issues of one severity and priority stay as they came. -/
  stable : ∀ rank priority, r.issues.filter (Issue.hasRanks rank priority) =
    (uniqueIds issues).filter (Issue.hasRanks rank priority)
  severities : r.summary.breakdown.map Prod.fst = ["low", "medium", "high", "critical"]
  counts : ∀ v : Severity, r.summary.breakdown.lookup v.name =
    some ((issues.countP fun i => i.severity == v : Nat) : Int)
  sum : (r.summary.breakdown.map Prod.snd).sum = r.summary.issueCount
  issueCount : r.summary.issueCount = issues.length
  totalFiles : r.summary.totalFiles = units.length
  totalLines : r.summary.totalLines = ((units.map fun u => u.lines.length).sum : Nat)
  languages : IsFirstSeen r.summary.languages (units.map fun u => u.language.name)
  metrics : r.metrics.InRange

theorem exists_of_same {issues renamed : List Issue}
    (h : List.Forall₂ Issue.SameButId issues renamed) {j : Issue} (hj : j ∈ renamed) :
    ∃ i ∈ issues, i.SameButId j := by
  induction h with
  | nil => simp at hj
  | @cons i j' issues renamed hsame _ ih =>
    rcases List.mem_cons.mp hj with rfl | hj
    · exact ⟨i, by simp, hsame⟩
    · obtain ⟨i', hi', hsame'⟩ := ih hj
      exact ⟨i', List.mem_cons_of_mem i hi', hsame'⟩

/-- An issue of a report is one of those it was made of, but for its id. -/
theorem Report.Describes.exists_same {units : List SourceUnit} {issues : List Issue} {r : Report}
    (h : r.Describes units issues) {j : Issue} (hj : j ∈ r.issues) :
    ∃ i ∈ issues, i.SameButId j :=
  exists_of_same h.renamed (h.perm.mem_iff.mp hj)

theorem Summary.languages_firstSeen (units : List SourceUnit) (issues : List Issue) :
    IsFirstSeen (Summary.ofIssues units issues).languages
      (units.map fun u => u.language.name) := by
  have h := (isFirstSeen_eraseDups (units.map (·.language))).map Language.name_injective
  simpa only [Summary.ofIssues, SourceUnit.languageCounts, List.map_map, Function.comp_def] using h

namespace Report

variable {units : List SourceUnit} {issues : List Issue}

theorem find?_foreign (hissues : ∀ i ∈ issues, i.Placed units) :
    (issues.find? fun i => !i.isAbout (units.map (·.path))) = none := by
  apply List.find?_eq_none.mpr
  intro i hi
  have habout := (Issue.isAbout_iff units i).mpr (hissues i hi)
  simp [habout]

/-- Files and issues about them or the project make a report. -/
theorem build_ok (timestamp : String) (hunits : units ≠ [])
    (hissues : ∀ i ∈ issues, i.Placed units) :
    ∃ r, build units issues timestamp = .ok r ∧ r.Describes units issues := by
  have hfiles : (0 : Int) < units.length := by
    have := List.length_pos_of_ne_nil hunits
    omega
  obtain ⟨m, hm, hrange⟩ := Metrics.ofIssues_ok hfiles (prioritize (uniqueIds issues))
  have hsame := uniqueIds_same issues
  have hperm := prioritize_perm (uniqueIds issues)
  unfold build
  rw [if_neg (by simpa using hunits), find?_foreign hissues]
  dsimp only
  rw [hm]
  refine ⟨_, rfl, ?_⟩
  constructor
  case renamed => exact hsame
  case perm => exact hperm
  case nodup => exact ((hperm.map _).nodup_iff).mpr (uniqueIds_nodup issues)
  case sorted => exact (prioritize_sorted _).imp fun h => (Issue.precedes_iff _ _).mp h
  case stable => exact prioritize_stable _
  case severities => rfl
  case counts =>
    intro v
    simp only [Summary.ofIssues]
    rw [breakdownOf_lookup, hperm.countP_eq, countP_of_same v hsame]
  case sum => exact breakdownOf_sum _
  case issueCount =>
    simp only [Summary.ofIssues]
    rw [hperm.length_eq, hsame.length_eq]
  case totalFiles => rfl
  case totalLines =>
    simp only [Summary.ofIssues]
    rw [SourceUnit.totalLines_eq_sum]
  case languages => exact Summary.languages_firstSeen _ _
  case metrics => exact hrange

/-- The first issue about no file at hand refuses the report. -/
theorem build_foreign (timestamp : String) (hunits : units ≠ []) {before after : List Issue}
    {i : Issue} (hissues : issues = before ++ i :: after) (hbefore : ∀ j ∈ before, j.Placed units)
    (hi : ¬ i.Placed units) :
    build units issues timestamp = .error (.foreignFile i.id i.file) := by
  have hfind : (issues.find? fun i => !i.isAbout (units.map (·.path))) = some i := by
    refine List.find?_eq_some_iff_append.mpr ⟨?_, before, after, hissues, fun j hj => ?_⟩
    · rw [← Issue.isAbout_iff] at hi
      simpa using hi
    · simp [(Issue.isAbout_iff units j).mpr (hbefore j hj)]
  unfold build
  rw [if_neg (by simpa using hunits), hfind]

/-- All that the making of a report takes, once there is one. -/
theorem build_eq_ok {timestamp : String} {r : Report}
    (h : build units issues timestamp = .ok r) : units ≠ [] ∧
      ∃ m, Metrics.ofIssues units.length (prioritize (uniqueIds issues)) = .ok m ∧ r =
        { summary := .ofIssues units (prioritize (uniqueIds issues))
          issues := prioritize (uniqueIds issues)
          metrics := m
          recommendations := recommendationsFor (prioritize (uniqueIds issues))
          timestamp } := by
  unfold build at h
  split at h
  · cases h
  · rename_i hunits
    split at h
    · cases h
    · obtain ⟨m, hm, hmade⟩ := bind_eq_ok.mp h
      exact ⟨by simpa using hunits, m, hm, (Except.ok.inj hmade).symm⟩

/-- What a report was made of. -/
theorem build_made {timestamp : String} {r : Report}
    (h : build units issues timestamp = .ok r) :
    units ≠ [] ∧ r.summary = .ofIssues units r.issues ∧ r.metrics.InRange := by
  obtain ⟨hunits, m, hm, rfl⟩ := build_eq_ok h
  have hfiles : (0 : Int) < units.length := by
    have := List.length_pos_of_ne_nil hunits
    omega
  obtain ⟨m', hm', hrange⟩ := Metrics.ofIssues_ok hfiles (prioritize (uniqueIds issues))
  obtain rfl : m = m' := Except.ok.inj (hm.symm.trans hm')
  exact ⟨hunits, rfl, hrange⟩

theorem exists_first_not {α : Type} (p : α → Prop) (xs : List α) (h : ¬ ∀ x ∈ xs, p x) :
    ∃ before x after, xs = before ++ x :: after ∧ (∀ y ∈ before, p y) ∧ ¬ p x := by
  induction xs with
  | nil => exact absurd (by simp) h
  | cons x xs ih =>
    by_cases hx : p x
    · have hxs : ¬ ∀ y ∈ xs, p y := fun hxs => h (List.forall_mem_cons.mpr ⟨hx, hxs⟩)
      obtain ⟨before, y, after, rfl, hbefore, hy⟩ := ih hxs
      exact ⟨x :: before, y, after, rfl, List.forall_mem_cons.mpr ⟨hx, hbefore⟩, hy⟩
    · exact ⟨[], x, xs, rfl, by simp, hx⟩

/-- **The making of a report.** Without files there is none. With files, it is refused exactly if
there is an issue about neither the project nor one of them, and for the first such issue;
otherwise it is made, and describes them all. -/
theorem build_contract (units : List SourceUnit) (issues : List Issue) (timestamp : String) :
    (build units issues timestamp = .error .emptyInput ↔ units = []) ∧
    (∀ id file, build units issues timestamp = .error (.foreignFile id file) ↔
      units ≠ [] ∧ ∃ before i after, issues = before ++ i :: after ∧
        (∀ j ∈ before, j.Placed units) ∧ ¬ i.Placed units ∧ i.id = id ∧ i.file = file) ∧
    ((∃ r, build units issues timestamp = .ok r ∧ r.Describes units issues) ↔
      units ≠ [] ∧ ∀ i ∈ issues, i.Placed units) := by
  by_cases hunits : units = []
  · subst hunits
    have hbuild : build [] issues timestamp = .error .emptyInput := rfl
    rw [hbuild]
    simp
  · by_cases hall : ∀ i ∈ issues, i.Placed units
    · obtain ⟨r, hr, hdescribes⟩ := build_ok timestamp hunits hall
      rw [hr]
      refine ⟨by simp [hunits], fun id file => ⟨nofun, ?_⟩, ⟨fun _ => ⟨hunits, hall⟩, fun _ => ?_⟩⟩
      · rintro ⟨_, before, i, after, rfl, _, hi, _⟩
        exact absurd (hall i (by simp)) hi
      · exact ⟨r, rfl, hdescribes⟩
    · obtain ⟨before, i, after, hissues, hbefore, hi⟩ := exists_first_not _ _ hall
      have hbuild := build_foreign timestamp hunits hissues hbefore hi
      refine ⟨by simp [hbuild, hunits], fun id file => ⟨fun h => ?_, ?_⟩, ⟨?_, ?_⟩⟩
      · rw [hbuild, Except.error.injEq, Failure.foreignFile.injEq] at h
        exact ⟨hunits, before, i, after, hissues, hbefore, hi, h⟩
      · rintro ⟨_, before, j, after, hissues, hbefore, hj, rfl, rfl⟩
        exact build_foreign timestamp hunits hissues hbefore hj
      · rintro ⟨r, hr, _⟩
        rw [hbuild] at hr
        cases hr
      · rintro ⟨_, h⟩
        exact absurd h hall

end Report

end Assay
