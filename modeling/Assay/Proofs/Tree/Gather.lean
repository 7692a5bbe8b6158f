import Assay.Proofs.Selection.Role
import Assay.Tree.Gather

/-!
# What is gathered from a tree

* `Configuration.roleAt`: what becomes of a file of a tree;
* `FileTree.unitOf?`, `FileTree.otherOf?`: what a file adds to a source set;
* `FileTree.gather_outcome`: the files of a directory are gathered in their order;
* `FileTree.gather_paths`: the files of a directory are gathered, each in its role, and no others.
-/

namespace Assay

/-- What becomes of a file of a tree, by its components and its bytes. -/
def Configuration.roleAt (patterns : List String) (limit : Int)
    (f : List String × List UInt8) : Option Role :=
  roleOf (excludedBy patterns) (bound limit) (Text.join "/" f.1) f.2.length

namespace FileTree

open Configuration (roleAt excludedBy bound)

variable {t : FileTree} {c : Configuration} {patterns : List String} {limit : Int}

/-- The unit of a file, if it is analysed. -/
def unitOf? (patterns : List String) (limit : Int) (f : List String × List UInt8) :
    Option SourceUnit :=
  let path := Text.join "/" f.1
  if isExcluded path (excludedBy patterns) then none
  else (Language.ofPath? path).bind fun l =>
    if bound limit < f.2.length then none else some (.ofBytes path l f.2)

/-- The path of a file, if it is listed. -/
def otherOf? (patterns : List String) (f : List String × List UInt8) : Option String :=
  let path := Text.join "/" f.1
  if isExcluded path (excludedBy patterns) || (Language.ofPath? path).isSome then none
  else some path

theorem select_outcome (h : c.Settles patterns limit) (f : List String × List UInt8) :
    (select c ((excludedBy patterns).map .str) (Text.join "/" f.1) f.2).outcome =
      .ok ⟨(unitOf? patterns limit f).toList, (otherOf? patterns f).toList, ""⟩ := by
  unfold select unitOf? otherOf?
  simp only [Trail.outcome_bind, Trail.outcome_ofExcept, isExcludedBy_str, ok_bind]
  cases isExcluded (Text.join "/" f.1) (excludedBy patterns) with
  | true => rfl
  | false =>
    cases Language.ofPath? (Text.join "/" f.1) with
    | none => rfl
    | some l =>
      by_cases hlarge : bound limit < (f.2.length : Int)
      · simp [Trail.outcome_bind, h.isTooLarge_eq, hlarge]
      · simp [Trail.outcome_bind, h.isTooLarge_eq, hlarge, SourceSet.ofUnit]

theorem selectAll_outcome (h : c.Settles patterns limit)
    (files : List (List String × List UInt8)) :
    (selectAll c ((excludedBy patterns).map .str) files).outcome =
      .ok ⟨files.filterMap (unitOf? patterns limit), files.filterMap (otherOf? patterns), ""⟩ := by
  induction files with
  | nil => rfl
  | cons f files ih =>
    simp only [selectAll, Trail.outcome_bind, select_outcome h f, ih, ok_bind, Trail.outcome_pure,
      SourceSet.append]
    rw [List.filterMap_cons, List.filterMap_cons]
    cases unitOf? patterns limit f with
    | none => cases otherOf? patterns f <;> rfl
    | some u => cases otherOf? patterns f <;> rfl

/-- The files of a directory are gathered in their order, each for what it adds. -/
theorem gather_outcome (h : c.Settles patterns limit) {root : String} {place : List String}
    (hroot : t.entry root = .ok .directory) (hplace : t.resolve root = .ok place) :
    (t.gather c root).outcome = .ok ⟨(t.filesBelow place).filterMap (unitOf? patterns limit),
      (t.filesBelow place).filterMap (otherOf? patterns), Path.normal root⟩ := by
  simp only [gather, hroot, gatherBelow, Trail.outcome_bind, Trail.outcome_ofExcept,
    h.exclusions_eq, hplace, mapError_ok, selectAll_outcome h, Trail.outcome_info, ok_bind,
    Trail.outcome_pure]

/-- A path that some files have in a role. -/
theorem mem_filterMap_role {files : List (List String × List UInt8)} {k : Role} {p : String} :
    p ∈ files.filterMap (fun f =>
        if roleAt patterns limit f = some k then some (Text.join "/" f.1) else none) ↔
      ∃ f ∈ files, roleAt patterns limit f = some k ∧ p = Text.join "/" f.1 := by
  rw [List.mem_filterMap]
  refine exists_congr fun f => and_congr_right fun _ => ?_
  split
  · rename_i hrole
    simp [hrole, eq_comm]
  · rename_i hrole
    simp [hrole]

theorem unitOf?_path (f : List String × List UInt8) :
    (unitOf? patterns limit f).map SourceUnit.path =
      if roleAt patterns limit f = some .analysed then some (Text.join "/" f.1) else none := by
  unfold unitOf? roleAt roleOf
  dsimp only
  cases isExcluded (Text.join "/" f.1) (excludedBy patterns) with
  | true => rfl
  | false =>
    cases Language.ofPath? (Text.join "/" f.1) with
    | none => rfl
    | some l =>
      by_cases hlarge : bound limit < (f.2.length : Int)
      · simp [hlarge]
      · simp [hlarge, SourceUnit.ofBytes]

theorem otherOf?_eq (f : List String × List UInt8) : otherOf? patterns f =
    if roleAt patterns limit f = some .listed then some (Text.join "/" f.1) else none := by
  unfold otherOf? roleAt roleOf
  dsimp only
  cases isExcluded (Text.join "/" f.1) (excludedBy patterns) with
  | true => rfl
  | false =>
    cases Language.ofPath? (Text.join "/" f.1) with
    | none => rfl
    | some l =>
      by_cases hlarge : bound limit < (f.2.length : Int)
      · simp [hlarge]
      · simp [hlarge]

/-- The files of a directory are gathered, each in its role, and no others. -/
theorem gather_paths (h : c.Settles patterns limit) {root : String} {place : List String}
    (hroot : t.entry root = .ok .directory) (hplace : t.resolve root = .ok place) :
    ∃ s, (t.gather c root).outcome = .ok s ∧
      ∀ k p, p ∈ s.paths k ↔ ∃ f ∈ t.filesBelow place, roleAt patterns limit f = some k ∧
        p = Text.join "/" f.1 := by
  refine ⟨_, gather_outcome h hroot hplace, fun k p => ?_⟩
  rw [← mem_filterMap_role]
  cases k with
  | analysed =>
    unfold SourceSet.paths
    dsimp only
    rw [List.map_filterMap]
    simp only [unitOf?_path]
  | listed =>
    unfold SourceSet.paths
    simp only [← otherOf?_eq]

end FileTree

end Assay
