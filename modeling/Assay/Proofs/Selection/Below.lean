import Assay.Proofs.Text.Parts
import Assay.Selection.Exclusion

/-!
# What is below a directory that is left out

An exclusion that names a component of a directory leaves out all that is below the directory too;
one that matches a path as a whole need not.

* `isName`: exclusions that can only name components; `excludes_name`;
* `isExcluded_below`: names leave out what is below the directories that they leave out.
-/

namespace Assay

namespace Path

theorem slashed_append (a b : String) : slashed (a ++ b) = slashed a ++ slashed b := by
  simp [slashed]

/-- The components of a path are those of a directory above it and more. -/
theorem cut_below (dir rest : String) : Text.cut (slashed (dir ++ "/" ++ rest)) '/' =
    Text.cut (slashed dir) '/' ++ Text.cut (slashed rest) '/' := by
  have hlist : (slashed (dir ++ "/" ++ rest)).toList =
      (slashed dir).toList ++ '/' :: (slashed rest).toList := by
    rw [slashed_append, slashed_append, String.toList_append, String.toList_append,
      show slashed "/" = "/" by decide]
    simp
  rw [Text.cut, hlist, List.splitOn_append_cons_self, List.map_append]
  rfl

end Path

/-- Whether an exclusion can only name a component: it has neither slashes nor the signs of a
glob. -/
def isName (exclusion : String) : Bool :=
  exclusion.toList.all fun c => c != '/' && c != '*' && c != '?' && c != '['

theorem isName_alwaysExcluded : ∀ e ∈ Configuration.alwaysExcluded, isName e = true := by
  decide

namespace Glob

/-- A glob without signs stands for its own characters. -/
theorem parse_plain {s : List Char} (h : ∀ c ∈ s, c ≠ '*' ∧ c ≠ '?' ∧ c ≠ '[') :
    parse s = s.map .char := by
  induction s with
  | nil => rw [parse, List.map_nil]
  | cons c s ih =>
    obtain ⟨⟨hstar, hany, hset⟩, hs⟩ := List.forall_mem_cons.mp h
    rw [parse, if_neg (by simpa using hstar), if_neg (by simpa using hany),
      if_neg (by simpa using hset), ih hs, List.map_cons]

theorem matchesList_char (s t : List Char) : matchesList (s.map .char) t = true ↔ s = t := by
  induction s generalizing t with
  | nil => cases t <;> simp [matchesList]
  | cons c s ih =>
    cases t with
    | nil => simp [matchesList]
    | cons d t => simp [matchesList, takes, ih, eq_comm (a := d)]

end Glob

/-- A name leaves out the paths that it is a component of. -/
theorem excludes_name {e : String} (h : isName e = true) (path : String) :
    excludes path e = true ↔ e ∈ Text.cut (Path.slashed path) '/' := by
  simp only [isName, List.all_eq_true, Bool.and_eq_true, bne_iff_ne] at h
  have hglob : Glob.accepts e (Path.slashed path) = true →
      e ∈ Text.cut (Path.slashed path) '/' := by
    intro haccepts
    rw [Glob.accepts_eq, Glob.parse_plain fun c hc => ⟨(h c hc).1.1.2, (h c hc).1.2, (h c hc).2⟩,
      Glob.matchesList_char] at haccepts
    have hslash : '/' ∉ e.toList := fun hc => (h '/' hc).1.1.1 rfl
    -- All of the path is one component.
    rw [Text.cut, ← haccepts, List.splitOn_eq_singleton hslash]
    simp
  simp only [excludes, Bool.or_eq_true, List.contains_iff_mem]
  exact ⟨fun hor => hor.elim id hglob, .inl⟩

/-- **Names leave out what is below the directories that they leave out.** -/
theorem isExcluded_below {exclusions : List String} {dir : String}
    (hnames : ∀ e ∈ exclusions, isName e = true) (hgenerated : isGenerated dir = false)
    (h : isExcluded dir exclusions = true) (rest : String) :
    isExcluded (dir ++ "/" ++ rest) exclusions = true := by
  rw [isExcluded, hgenerated, Bool.false_or, List.any_eq_true] at h
  obtain ⟨e, he, hexcludes⟩ := h
  have hcomponent := (excludes_name (hnames e he) dir).mp hexcludes
  have hbelow : excludes (dir ++ "/" ++ rest) e = true := by
    rw [excludes_name (hnames e he), Path.cut_below]
    exact List.mem_append_left _ hcomponent
  rw [isExcluded, Bool.or_eq_true, List.any_eq_true]
  exact .inr ⟨e, he, hbelow⟩

end Assay
