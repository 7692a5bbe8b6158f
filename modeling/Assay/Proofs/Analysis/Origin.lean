import Assay.Pipeline
import Assay.Proofs.Detection.Reports
import Assay.Proofs.Json.Number
import Assay.Proofs.Report.Identity
import Assay.Proofs.Text.Parts
import Mathlib.Data.List.Induction

/-!
# Where the ids of issues come from

Ids are put together in several places out of keys, paths and numbers, with colons between them. A
path may hold colons and numbers itself, so an id can only be taken apart from both ends: keys and
numbers have no colon, and the key tells how many numbers there are.

* `Solid`: a text without a colon; `key_inj`, `number_inj`: such a text is found again at the
  beginning and at the end of an id;
* `joinId`: an id of a key, a path and numbers; `joinId_inj`: the path in it;
* `Origin`: where the issues of a file come from; `Origin.Marks`: the ids of such issues;
* `Origin.Marks.unique`: an id tells its origin and its path;
* `Origin.issuesOf_nodup`: so the issues of files with different paths have different ids.
-/

namespace Assay

/-! ## Parts -/

/-- A text without a colon. -/
def Solid (s : String) : Prop :=
  ':' ∉ s.toList

instance (s : String) : Decidable (Solid s) :=
  inferInstanceAs (Decidable (':' ∉ s.toList))

theorem solid_toDigits (n : Nat) : ':' ∉ Nat.toDigits 10 n := by
  intro h
  exact absurd (Json.isDigit_of_mem h) (by decide)

@[simp]
theorem solid_repr (n : Nat) : Solid n.repr := by
  rw [Solid, Nat.toList_repr]
  exact solid_toDigits n

@[simp]
theorem solid_repr_int (n : Int) : Solid n.repr := by
  rw [Solid, ← Int.toString_eq_repr, Json.toString_eq]
  split
  · exact solid_toDigits _
  · rw [List.mem_cons, not_or]
    exact ⟨by decide, solid_toDigits _⟩

theorem toList_colon (s t : String) : (s ++ ":" ++ t).toList = s.toList ++ ':' :: t.toList := by
  simp

theorem key_inj {key key' s s' : String} (hkey : Solid key) (hkey' : Solid key')
    (h : key ++ ":" ++ s = key' ++ ":" ++ s') : key = key' ∧ s = s' := by
  have hlist := congrArg String.toList h
  rw [toList_colon, toList_colon] at hlist
  obtain ⟨hfirst, hrest⟩ := append_cons_inj hkey hkey' hlist
  exact ⟨String.toList_injective hfirst, String.toList_injective hrest⟩

theorem number_inj {s s' n n' : String} (hn : Solid n) (hn' : Solid n')
    (h : s ++ ":" ++ n = s' ++ ":" ++ n') : s = s' ∧ n = n' := by
  have hlist := congrArg String.toList h
  rw [toList_colon, toList_colon] at hlist
  obtain ⟨hrest, hlast⟩ := snoc_inj hn hn' hlist
  exact ⟨String.toList_injective hrest, String.toList_injective hlast⟩

/-- A key, a path and numbers with colons between them. -/
def joinId (key path : String) (numbers : List String) : String :=
  numbers.foldl (fun id n => id ++ ":" ++ n) (key ++ ":" ++ path)

theorem joinId_snoc (key path : String) (numbers : List String) (n : String) :
    joinId key path (numbers ++ [n]) = joinId key path numbers ++ ":" ++ n := by
  simp [joinId]

theorem joinId_eq (key path : String) (numbers : List String) :
    ∃ rest, joinId key path numbers = key ++ ":" ++ rest := by
  induction numbers using List.reverseRecOn with
  | nil => exact ⟨path, rfl⟩
  | append_singleton numbers n ih =>
    obtain ⟨rest, hrest⟩ := ih
    refine ⟨rest ++ ":" ++ n, ?_⟩
    rw [joinId_snoc, hrest]
    simp only [String.append_assoc]

/-- As many numbers as there are are found whatever the path holds. -/
theorem joinId_inj {key path path' : String} {numbers numbers' : List String}
    (hlength : numbers.length = numbers'.length) (hsolid : ∀ n ∈ numbers, Solid n)
    (hsolid' : ∀ n ∈ numbers', Solid n)
    (h : joinId key path numbers = joinId key path' numbers') : path = path' := by
  induction numbers using List.reverseRecOn generalizing numbers' with
  | nil =>
    obtain rfl := List.length_eq_zero_iff.mp hlength.symm
    simpa [joinId] using h
  | append_singleton numbers n ih =>
    cases numbers' using List.reverseRecOn with
    | nil => simp at hlength
    | append_singleton numbers' n' =>
      rw [joinId_snoc, joinId_snoc] at h
      obtain ⟨hrest, _⟩ := number_inj (hsolid n (by simp)) (hsolid' n' (by simp)) h
      exact ih (by simpa using hlength) (fun m hm => hsolid m (List.mem_append_left _ hm))
        (fun m hm => hsolid' m (List.mem_append_left _ hm)) hrest

/-! ## Origins -/

/-- Where the issues of a file come from, apart from a review. -/
inductive Origin where
  | detector (d : Detector)
  | repetition
  | documentation
  deriving DecidableEq

namespace Origin

/-- The issues of a file that come from here. -/
def issues : Origin → SourceUnit → List Issue
  | detector d, u => d.issues u
  | repetition, u => DuplicateBlock.issues u.path (FileMetrics.ofUnit u).duplicateBlocks
  | documentation, u => Documentation.ofUnit u

/-- The issues of some files that come from some places, file by file. -/
def issuesOf (origins : List Origin) (units : List SourceUnit) : List Issue :=
  units.flatMap fun u => origins.flatMap fun o => o.issues u

/-- The keys with which their ids begin. -/
def keys : Origin → List String
  | detector .security => Security.rules.map (·.remark.key)
  | detector .performance => "nested-loops" :: Performance.rules.map (·.remark.key)
  | detector .complexity => ["long-function", "high-complexity", "deep-nesting", "many-parameters"]
  | repetition => ["duplicate-block"]
  | documentation => ["undocumented-functions"]

/-- How many numbers stand at their end. -/
def numbers : Origin → Nat
  | detector _ => 2
  | repetition => 3
  | documentation => 0

theorem keys_solid (o : Origin) : ∀ key ∈ o.keys, Solid key := by
  rcases o with (_ | _ | _) | _ | _ <;> decide

/-- A key tells the origin. -/
theorem eq_of_keys {o o' : Origin} {key : String} (h : key ∈ o.keys) (h' : key ∈ o'.keys) :
    o = o' := by
  revert key
  rcases o with (_ | _ | _) | _ | _ <;> rcases o' with (_ | _ | _) | _ | _ <;> decide

end Origin

/-! ## Ids of one origin -/

namespace Rule

theorem findingsOfAll_key {rules : List Rule} {text : List Char} {f : Finding}
    (h : f ∈ findingsOfAll rules text) : f.remark.key ∈ rules.map (·.remark.key) := by
  obtain ⟨r, hr, hf⟩ := List.mem_flatMap.mp h
  unfold findings at hf
  split at hf
  · simp at hf
  · obtain ⟨_, _, rfl⟩ := List.mem_map.mp hf
    exact List.mem_map_of_mem hr

end Rule

theorem Performance.loopsFrom_key {s : Loops} {n : Nat} {lines : List (List Char)} {f : Finding}
    (h : f ∈ loopsFrom s n lines) : f.remark.key = "nested-loops" := by
  induction lines generalizing s n with
  | nil => simp [loopsFrom] at h
  | cons line rest ih =>
    rw [loopsFrom] at h
    rcases List.mem_append.mp h with h | h
    · split at h
      · rw [List.mem_singleton.mp h]
        rfl
      · simp at h
    · exact ih h

namespace Complexity

theorem functionFindings_key {span : FunctionSpan} {f : Finding}
    (h : f ∈ functionFindings span) : f.remark.key ∈ ["long-function", "high-complexity"] := by
  rcases remark_of_functionFindings h with hremark | hremark
  · rw [hremark]
    simp [longRemark]
  · rw [hremark]
    simp [complexRemark]

theorem nestingFindings_key {lines : List (List Char)} {f : Finding}
    (h : f ∈ nestingFindings lines) : f.remark.key = "deep-nesting" := by
  obtain ⟨depth, hremark⟩ := remark_of_nestingFindings h
  rw [hremark]
  rfl

theorem parameterFindings_key {lines : List (List Char)} {f : Finding}
    (h : f ∈ parameterFindings lines) : f.remark.key = "many-parameters" := by
  obtain ⟨name, count, hremark⟩ := remark_of_parameterFindings h
  rw [hremark]
  rfl

end Complexity

theorem Detector.findings_key {d : Detector} {u : SourceUnit} {f : Finding}
    (h : f ∈ d.findings u) : f.remark.key ∈ (Origin.detector d).keys := by
  cases d with
  | security => exact Rule.findingsOfAll_key h
  | performance =>
    rcases List.mem_append.mp h with h | h
    · rw [Performance.loopsFrom_key h]
      exact List.mem_cons_self
    · exact List.mem_cons_of_mem _ (Rule.findingsOfAll_key h)
  | complexity =>
    rcases List.mem_append.mp h with h | h
    · rcases List.mem_append.mp h with h | h
      · obtain ⟨span, _, hf⟩ := List.mem_flatMap.mp h
        exact List.mem_append_left ["deep-nesting", "many-parameters"]
          (Complexity.functionFindings_key hf)
      · rw [Complexity.nestingFindings_key h]
        simp [Origin.keys]
    · rw [Complexity.parameterFindings_key h]
      simp [Origin.keys]

namespace Origin

/-- An id that issues of a file may have: a key, the path and numbers. -/
def Marks (o : Origin) (path id : String) : Prop :=
  ∃ key ∈ o.keys, ∃ numbers : List String, numbers.length = o.numbers ∧
    (∀ n ∈ numbers, Solid n) ∧ id = joinId key path numbers

theorem Marks.not_solid {o : Origin} {path id : String} (h : o.Marks path id) : ¬ Solid id := by
  obtain ⟨key, _, numbers, _, _, rfl⟩ := h
  obtain ⟨rest, hrest⟩ := joinId_eq key path numbers
  simp [Solid, hrest]

/-- An id tells its origin and its path. -/
theorem Marks.unique {o o' : Origin} {path path' id : String} (h : o.Marks path id)
    (h' : o'.Marks path' id) : o = o' ∧ path = path' := by
  obtain ⟨key, hkey, numbers, hlength, hsolid, rfl⟩ := h
  obtain ⟨key', hkey', numbers', hlength', hsolid', hid⟩ := h'
  obtain ⟨rest, hrest⟩ := joinId_eq key path numbers
  obtain ⟨rest', hrest'⟩ := joinId_eq key' path' numbers'
  obtain ⟨rfl, _⟩ := key_inj (keys_solid o key hkey) (keys_solid o' key' hkey')
    (hrest.symm.trans (hid.trans hrest'))
  obtain rfl := eq_of_keys hkey hkey'
  exact ⟨rfl, joinId_inj (hlength.trans hlength'.symm) hsolid hsolid' hid⟩

theorem issues_marked {o : Origin} {u : SourceUnit} {i : Issue} (h : i ∈ o.issues u) :
    o.Marks u.path i.id := by
  cases o with
  | detector d =>
    obtain ⟨⟨f, n⟩, hf, rfl⟩ := List.mem_map.mp h
    have hkey := Detector.findings_key (List.fst_mem_of_mem_zipIdx hf)
    exact ⟨f.remark.key, hkey, [f.line.repr, n.repr], rfl, by simp, rfl⟩
  | repetition =>
    obtain ⟨⟨b, n⟩, _, rfl⟩ := List.mem_map.mp h
    exact ⟨"duplicate-block", List.mem_singleton_self _,
      [b.startLine.repr, b.duplicateStart.repr, n.repr], rfl, by simp, rfl⟩
  | documentation =>
    change i ∈ Documentation.ofUnit u at h
    unfold Documentation.ofUnit at h
    split at h
    · simp at h
    · rw [List.mem_singleton.mp h]
      exact ⟨"undocumented-functions", List.mem_singleton_self _, [], rfl, by simp, rfl⟩

/-! ## Issues of several files -/

/-- Ids that end in the number of their place differ. -/
theorem numbered_nodup {α : Type} (xs : List α) {idOf : α × Nat → String}
    (h : ∀ x, ∃ s, idOf x = s ++ ":" ++ x.2.repr) : (xs.zipIdx.map idOf).Nodup := by
  have hnumbers : (xs.zipIdx.map Prod.snd).Nodup := by
    rw [List.zipIdx_map_snd]
    exact List.nodup_range'
  refine List.pairwise_map.mpr ((List.pairwise_map.mp hnumbers).imp fun {x y} hne hid => ?_)
  obtain ⟨s, hs⟩ := h x
  obtain ⟨t, ht⟩ := h y
  obtain ⟨_, hrepr⟩ := number_inj (solid_repr x.2) (solid_repr y.2) (hs.symm.trans (hid.trans ht))
  exact hne (toString_injective hrepr)

/-- The issues of one origin in one file have different ids. -/
theorem issues_nodup (o : Origin) (u : SourceUnit) : ((o.issues u).map (·.id)).Nodup := by
  cases o with
  | detector d =>
    change ((Finding.toIssues d.kind u.path (d.findings u)).map (·.id)).Nodup
    rw [Finding.toIssues, List.map_map]
    exact numbered_nodup _ fun x => ⟨joinId x.1.remark.key u.path [x.1.line.repr], rfl⟩
  | repetition =>
    change ((DuplicateBlock.issues u.path _).map (·.id)).Nodup
    rw [DuplicateBlock.issues, List.map_map]
    exact numbered_nodup _ fun x =>
      ⟨joinId "duplicate-block" u.path [x.1.startLine.repr, x.1.duplicateStart.repr], rfl⟩
  | documentation =>
    change ((Documentation.ofUnit u).map (·.id)).Nodup
    unfold Documentation.ofUnit
    split
    · exact List.nodup_nil
    · exact List.nodup_singleton _

theorem marked_of_mem {origins : List Origin} {u : SourceUnit} {id : String}
    (h : id ∈ (origins.flatMap fun o => o.issues u).map (·.id)) :
    ∃ o ∈ origins, o.Marks u.path id := by
  obtain ⟨i, hi, rfl⟩ := List.mem_map.mp h
  obtain ⟨o, ho, hi⟩ := List.mem_flatMap.mp hi
  exact ⟨o, ho, issues_marked hi⟩

theorem issuesOf_marked {origins : List Origin} {units : List SourceUnit} {id : String}
    (h : id ∈ (issuesOf origins units).map (·.id)) :
    ∃ o ∈ origins, ∃ path, o.Marks path id := by
  rw [issuesOf, List.map_flatMap] at h
  obtain ⟨u, _, hid⟩ := List.mem_flatMap.mp h
  obtain ⟨o, ho, hmarks⟩ := marked_of_mem hid
  exact ⟨o, ho, u.path, hmarks⟩

theorem issuesOf_not_solid {origins : List Origin} {units : List SourceUnit} {id : String}
    (h : id ∈ (issuesOf origins units).map (·.id)) : ¬ Solid id := by
  obtain ⟨_, _, _, hmarks⟩ := issuesOf_marked h
  exact hmarks.not_solid

/-- Ids that come from different places differ, of whatever files. -/
theorem issuesOf_disjoint {origins origins' : List Origin}
    (horigins : ∀ o ∈ origins, o ∉ origins') {units units' : List SourceUnit} {id : String}
    (h : id ∈ (issuesOf origins units).map (·.id)) :
    id ∉ (issuesOf origins' units').map (·.id) := by
  intro h'
  obtain ⟨o, ho, _, hmarks⟩ := issuesOf_marked h
  obtain ⟨o', ho', _, hmarks'⟩ := issuesOf_marked h'
  obtain ⟨rfl, _⟩ := hmarks.unique hmarks'
  exact horigins o ho ho'

/-- The issues that files with different paths have of different origins have different ids. -/
theorem issuesOf_nodup {origins : List Origin} (horigins : origins.Nodup)
    {units : List SourceUnit} (hunits : (units.map (·.path)).Nodup) :
    ((issuesOf origins units).map (·.id)).Nodup := by
  rw [issuesOf, List.map_flatMap, List.nodup_flatMap]
  constructor
  · intro u _
    rw [List.map_flatMap, List.nodup_flatMap]
    refine ⟨fun o _ => o.issues_nodup u, horigins.imp fun {o o'} hne id h h' => ?_⟩
    obtain ⟨i, hi, rfl⟩ := List.mem_map.mp h
    obtain ⟨i', hi', hid⟩ := List.mem_map.mp h'
    exact hne ((issues_marked hi).unique (hid ▸ issues_marked hi')).1
  · refine (List.pairwise_map.mp hunits).imp fun {u u'} hne id h h' => ?_
    obtain ⟨o, _, hmarks⟩ := marked_of_mem h
    obtain ⟨o', _, hmarks'⟩ := marked_of_mem h'
    exact hne (hmarks.unique hmarks').2

end Origin

end Assay
