import Assay.Proofs.Selection.Below
import Assay.Proofs.Tree.Files
import Assay.Proofs.Tree.Gather

/-!
# What is gathered, exactly

A file below a directory is left out, or it is analysed, or it is listed, or it is too large. So
what is gathered is told by the tree alone, and in one order only.

* `Path.Before`: the order of paths by their components;
* `FileTree.Keeps`: the files that are not left out;
* `FileTree.Partitions`: the set that has each of them where it belongs; `Partitions.unique`: there
  is one such set;
* `FileTree.IsDropped`: the files that belong nowhere;
* `FileTree.gather_exact`: the set is what is gathered, and one more file that belongs nowhere
  changes nothing.
-/

namespace Assay

open Configuration (excludedBy bound)

/-- The order of paths by their components. The order by characters is another one: a name may hold
characters that come before the slash. -/
def Path.Before (p q : String) : Prop :=
  Text.cut p '/' < Text.cut q '/'

namespace FileTree

variable {t t' : FileTree} {c : Configuration} {patterns : List String} {limit : Int}
  {dir place : List String} {bytes : List UInt8} {s s' : SourceSet}

/-! ## The set -/

/-- The file is below the directory and is not left out. -/
structure Keeps (t : FileTree) (patterns : List String) (dir place : List String)
    (bytes : List UInt8) : Prop where
  below : place ≠ []
  file : t.entryAt (dir ++ place) = some (.file bytes)
  kept : isExcluded (Text.join "/" place) (excludedBy patterns) = false

/-- The set has the files below a directory, those of a language that are not too large as units and
those of no language by their paths. -/
structure Partitions (t : FileTree) (patterns : List String) (limit : Int) (dir : List String)
    (s : SourceSet) : Prop where
  mem_units : ∀ u, u ∈ s.units ↔ ∃ place bytes l, t.Keeps patterns dir place bytes ∧
    Language.ofPath? (Text.join "/" place) = some l ∧ (bytes.length : Int) ≤ bound limit ∧
    u = .ofBytes (Text.join "/" place) l bytes
  mem_others : ∀ p, p ∈ s.otherPaths ↔ ∃ place bytes, t.Keeps patterns dir place bytes ∧
    Language.ofPath? (Text.join "/" place) = none ∧ p = Text.join "/" place
  units_sorted : s.units.Pairwise fun u v => Path.Before u.path v.path
  others_sorted : s.otherPaths.Pairwise Path.Before

/-- There is one way to list them. -/
theorem Partitions.unique (h : t.Partitions patterns limit dir s)
    (h' : t.Partitions patterns limit dir s') :
    s.units = s'.units ∧ s.otherPaths = s'.otherPaths := by
  constructor
  · apply eq_of_pairwise_lt (fun u : SourceUnit => Text.cut u.path '/') h.units_sorted
      h'.units_sorted
    intro u
    rw [h.mem_units, h'.mem_units]
  · apply eq_of_pairwise_lt (fun p => Text.cut p '/') h.others_sorted h'.others_sorted
    intro p
    rw [h.mem_others, h'.mem_others]

/-! ## What is gathered -/

theorem unitOf?_eq_some_iff {u : SourceUnit} : unitOf? patterns limit (place, bytes) = some u ↔
    isExcluded (Text.join "/" place) (excludedBy patterns) = false ∧
      ∃ l, Language.ofPath? (Text.join "/" place) = some l ∧
        (bytes.length : Int) ≤ bound limit ∧ u = .ofBytes (Text.join "/" place) l bytes := by
  unfold unitOf?
  dsimp only
  cases isExcluded (Text.join "/" place) (excludedBy patterns) with
  | true => simp
  | false =>
    cases Language.ofPath? (Text.join "/" place) with
    | none => simp
    | some l =>
      by_cases hlarge : bound limit < (bytes.length : Int)
      · simp [hlarge]
      · simp [hlarge, Int.not_lt.mp hlarge, eq_comm]

theorem otherOf?_eq_some_iff {p : String} : otherOf? patterns (place, bytes) = some p ↔
    isExcluded (Text.join "/" place) (excludedBy patterns) = false ∧
      Language.ofPath? (Text.join "/" place) = none ∧ p = Text.join "/" place := by
  unfold otherOf?
  dsimp only
  cases isExcluded (Text.join "/" place) (excludedBy patterns) with
  | true => simp
  | false =>
    cases Language.ofPath? (Text.join "/" place) with
    | none => simp [eq_comm]
    | some l => simp

theorem keeps_iff (ht : t.IsSound) : t.Keeps patterns dir place bytes ↔
    (place, bytes) ∈ t.filesBelow dir ∧
      isExcluded (Text.join "/" place) (excludedBy patterns) = false := by
  rw [mem_filesBelow, ← ht.entryAt_file_iff]
  constructor
  · intro h
    exact ⟨⟨h.below, h.file⟩, h.kept⟩
  · rintro ⟨⟨hbelow, hfile⟩, hkept⟩
    exact ⟨hbelow, hfile, hkept⟩

/-- The components of a file's path are the names of its place. -/
theorem IsSound.cut_place (ht : t.IsSound) (h : (place, bytes) ∈ t.filesBelow dir) :
    Text.cut (Text.join "/" place) '/' = place := by
  obtain ⟨hne, hmem⟩ := mem_filesBelow.mp h
  refine Text.cut_join hne fun x hx => ?_
  exact ht.named _ hmem x (List.mem_append_right dir hx)

/-- What some files make comes in the order of their paths. -/
theorem IsSound.sorted (ht : t.IsSound) {α : Type} (path : α → String)
    (make : List String × List UInt8 → Option α)
    (hmake : ∀ f a, make f = some a → path a = Text.join "/" f.1) :
    ((t.filesBelow dir).filterMap make).Pairwise fun a b => Path.Before (path a) (path b) := by
  rw [List.pairwise_filterMap]
  refine (ht.filesBelow_pairwise dir).imp_of_mem ?_
  intro f g hf hg hlt a ha b hb
  rw [Path.Before, hmake f a ha, hmake g b hb, ht.cut_place hf, ht.cut_place hg]
  exact hlt

theorem partitions_filesBelow (ht : t.IsSound) (origin : String) :
    t.Partitions patterns limit dir ⟨(t.filesBelow dir).filterMap (unitOf? patterns limit),
      (t.filesBelow dir).filterMap (otherOf? patterns), origin⟩ where
  mem_units u := by
    rw [List.mem_filterMap]
    constructor
    · rintro ⟨⟨place, bytes⟩, hmem, hunit⟩
      obtain ⟨hkept, l, hl, hsmall, hu⟩ := unitOf?_eq_some_iff.mp hunit
      exact ⟨place, bytes, l, (keeps_iff ht).mpr ⟨hmem, hkept⟩, hl, hsmall, hu⟩
    · rintro ⟨place, bytes, l, hkeeps, hl, hsmall, hu⟩
      obtain ⟨hmem, hkept⟩ := (keeps_iff ht).mp hkeeps
      exact ⟨(place, bytes), hmem, unitOf?_eq_some_iff.mpr ⟨hkept, l, hl, hsmall, hu⟩⟩
  mem_others p := by
    rw [List.mem_filterMap]
    constructor
    · rintro ⟨⟨place, bytes⟩, hmem, hother⟩
      obtain ⟨hkept, hl, hp⟩ := otherOf?_eq_some_iff.mp hother
      exact ⟨place, bytes, (keeps_iff ht).mpr ⟨hmem, hkept⟩, hl, hp⟩
    · rintro ⟨place, bytes, hkeeps, hl, hp⟩
      obtain ⟨hmem, hkept⟩ := (keeps_iff ht).mp hkeeps
      exact ⟨(place, bytes), hmem, otherOf?_eq_some_iff.mpr ⟨hkept, hl, hp⟩⟩
  units_sorted := by
    apply ht.sorted SourceUnit.path
    intro f u hunit
    obtain ⟨_, l, _, _, rfl⟩ := unitOf?_eq_some_iff.mp hunit
    rfl
  others_sorted := by
    apply ht.sorted id
    intro f p hother
    exact (otherOf?_eq_some_iff.mp hother).2.2

/-! ## A file that belongs nowhere -/

/-- The file is left out, or it is of a language and too large. -/
def IsDropped (patterns : List String) (limit : Int) (place : List String) (bytes : List UInt8) :
    Prop :=
  isExcluded (Text.join "/" place) (excludedBy patterns) = true ∨
    (∃ l, Language.ofPath? (Text.join "/" place) = some l) ∧ bound limit < (bytes.length : Int)

/-- A dropped file that is not left out is of a language and too large. -/
theorem IsDropped.of_keeps (h : IsDropped patterns limit place bytes)
    (hkeeps : t.Keeps patterns dir place bytes) :
    (∃ l, Language.ofPath? (Text.join "/" place) = some l) ∧
      bound limit < (bytes.length : Int) := by
  apply h.resolve_left
  rw [hkeeps.kept]
  exact Bool.false_ne_true

/-- One more file below the directory is the only one more that can be kept. -/
theorem keeps_of_perm (ht : t.IsSound) (ht' : t'.IsSound)
    (hperm : t'.entries.Perm ((dir ++ place, .file bytes) :: t.entries)) {p : List String}
    {content : List UInt8} (h : t'.Keeps patterns dir p content) :
    t.Keeps patterns dir p content ∨ p = place ∧ content = bytes := by
  rcases (entryAt_file_of_perm ht ht' hperm).mp h.file with ⟨hplace, hbytes⟩ | hfile
  · exact Or.inr ⟨List.append_cancel_left hplace, hbytes⟩
  · exact Or.inl ⟨h.below, hfile, h.kept⟩

/-- One more file that is dropped leaves the set as it is. -/
theorem Partitions.of_perm (ht : t.IsSound) (ht' : t'.IsSound)
    (hperm : t'.entries.Perm ((dir ++ place, .file bytes) :: t.entries))
    (hdropped : IsDropped patterns limit place bytes) (h : t'.Partitions patterns limit dir s) :
    t.Partitions patterns limit dir s := by
  have hold : ∀ {p content}, t.Keeps patterns dir p content → t'.Keeps patterns dir p content :=
    fun hkeeps => ⟨hkeeps.below,
      (entryAt_file_of_perm ht ht' hperm).mpr (Or.inr hkeeps.file), hkeeps.kept⟩
  refine ⟨?_, ?_, h.units_sorted, h.others_sorted⟩
  · intro u
    rw [h.mem_units]
    constructor
    · rintro ⟨p, content, l, hkeeps, hl, hsmall, hu⟩
      rcases keeps_of_perm ht ht' hperm hkeeps with hkept | ⟨rfl, rfl⟩
      · exact ⟨p, content, l, hkept, hl, hsmall, hu⟩
      · have hlarge := (hdropped.of_keeps hkeeps).2
        omega
    · rintro ⟨p, content, l, hkeeps, hl, hsmall, hu⟩
      exact ⟨p, content, l, hold hkeeps, hl, hsmall, hu⟩
  · intro path
    rw [h.mem_others]
    constructor
    · rintro ⟨p, content, hkeeps, hl, hpath⟩
      rcases keeps_of_perm ht ht' hperm hkeeps with hkept | ⟨rfl, rfl⟩
      · exact ⟨p, content, hkept, hl, hpath⟩
      · obtain ⟨l, hsome⟩ := (hdropped.of_keeps hkeeps).1
        rw [hl] at hsome
        cases hsome
    · rintro ⟨p, content, hkeeps, hl, hpath⟩
      exact ⟨p, content, hold hkeeps, hl, hpath⟩

/-- **Gathering is exact.** Of the files below a directory that are not left out, the units are
those of a language that are not too large, and the other paths are those of no language; each comes
once, in the order of its components. One more file that is left out, or that is of a language and
too large, changes nothing. -/
theorem gather_exact (h : c.Settles patterns limit) (ht : t.IsSound) {root : String}
    (hroot : t.entry root = .ok .directory) (hdir : t.resolve root = .ok dir) :
    ∃ s, (t.gather c root).outcome = .ok s ∧ t.Partitions patterns limit dir s ∧
      ∀ (t' : FileTree) (place : List String) (bytes : List UInt8), t'.IsSound → place ≠ [] →
        t'.entries.Perm ((dir ++ place, .file bytes) :: t.entries) →
        IsDropped patterns limit place bytes → (t'.gather c root).outcome = .ok s := by
  refine ⟨_, gather_outcome h hroot hdir, partitions_filesBelow ht _, ?_⟩
  intro t' place bytes ht' hplace hperm hdropped
  have hextends : t.Extends t' := extends_of_perm ht ht' hperm (by simp [hplace])
  have hall : t'.Partitions patterns limit dir _ := partitions_filesBelow ht' (Path.normal root)
  obtain ⟨hunits, hothers⟩ := (hall.of_perm ht ht' hperm hdropped).unique
    (partitions_filesBelow ht (Path.normal root))
  dsimp only at hunits hothers
  rw [gather_outcome h (hextends.entry hroot) (hextends.resolve hdir), hunits, hothers]

/-- The names of a directory and of the files beside it share their start, so that components and
characters order the paths differently. A script that is too large is not seen. -/
theorem gather_exact_shared_start :
    let t : FileTree := ⟨[(["app", "a.py"], .file [0x78]), (["app", "a-b.py"], .file [0x78]),
      (["app", "a", "x.py"], .file [0x78]), (["app", "notes"], .file []),
      (["app", "dir.py"], .directory)]⟩
    let t' : FileTree := ⟨(["app", "b.py"], .file [0x78, 0x79]) :: t.entries⟩
    let c : Configuration := { excludePatterns := .seq [], maxFileSize := .int 1 }
    ∃ s, (t.gather c "app").outcome = .ok s ∧
      s.units.map (·.path) = ["a/x.py", "a-b.py", "a.py"] ∧ s.otherPaths = ["notes"] ∧
      (t'.gather c "app").outcome = .ok s := by
  intro t t' c
  have hsettles : c.Settles [] 1 := ⟨rfl, rfl⟩
  have hsound : t.IsSound := by decide +kernel
  have hroot : t.entry "app" = .ok .directory := by decide +kernel
  have hdir : t.resolve "app" = .ok ["app"] := by decide +kernel
  have hfiles : t.filesBelow ["app"] = [(["a", "x.py"], [0x78]), (["a-b.py"], [0x78]),
      (["a.py"], [0x78]), (["notes"], [])] :=
    hsound.filesBelow_eq (by decide +kernel) (by decide +kernel)
  have hdropped : IsDropped [] 1 ["b.py"] [0x78, 0x79] :=
    Or.inr ⟨⟨.python, by decide +kernel⟩, by decide +kernel⟩
  obtain ⟨s, hs, _, hmore⟩ := gather_exact hsettles hsound hroot hdir
  have hgathered := gather_outcome hsettles hroot hdir
  rw [hs, hfiles] at hgathered
  obtain rfl := Except.ok.inj hgathered
  exact ⟨_, hs, by decide +kernel, by decide +kernel,
    hmore t' ["b.py"] [0x78, 0x79] (by decide +kernel) (by decide) (List.Perm.refl _) hdropped⟩

end FileTree

end Assay
