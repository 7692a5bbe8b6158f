import Mathlib.Data.String.Basic
import Assay.Proofs.Outcome
import Assay.Proofs.Sorted
import Assay.Tree.Basic

/-!
# What is in a tree

* `FileTree.placeBefore_iff`: places are compared like the lists of names that they are;
* `FileTree.IsSound`: one entry at every place, and nothing below a file;
* `FileTree.mem_filesBelow`, `FileTree.filesBelow_pairwise`: the files below a directory, each once
  and in the order of their places;
* `FileTree.Extends`, `FileTree.extends_of_perm`: a tree with one more file, where every path leads
  to what it led to before.
-/

namespace Assay.FileTree

variable {t u : FileTree} {dir place rest : List String} {bytes : List UInt8} {e : Entry}

/-! ## The order of places -/

theorem placeBefore_iff {a b : List String} : placeBefore a b = true ↔ a ≤ b := by
  rw [← not_lt]
  induction a generalizing b with
  | nil => exact iff_of_true rfl (List.not_lt_nil b)
  | cons x xs ih =>
    cases b with
    | nil => exact iff_of_false Bool.false_ne_true (not_not_intro (List.nil_lt_cons x xs))
    | cons y ys =>
      rw [placeBefore, List.cons_lt_cons_iff]
      rcases lt_trichotomy x y with hlt | rfl | hgt
      · rw [if_neg (by simpa using hlt.ne), decide_eq_true_eq]
        refine iff_of_true hlt ?_
        rintro (h | ⟨rfl, _⟩)
        · exact lt_asymm hlt h
        · exact lt_irrefl y hlt
      · rw [if_pos (beq_self_eq_true x), ih]
        constructor
        · rintro h (hlt | ⟨_, hlt⟩)
          · exact lt_irrefl x hlt
          · exact h hlt
        · intro h hlt
          exact h (Or.inr ⟨rfl, hlt⟩)
      · rw [if_neg (by simpa using hgt.ne'), decide_eq_true_eq]
        exact iff_of_false (lt_asymm hgt) (not_not_intro (Or.inl hgt))

/-! ## Sound trees -/

/-- A tree as a disk holds it. -/
structure IsSound (t : FileTree) : Prop where
  /-- There is one entry at a place. -/
  nodup : (t.entries.map Prod.fst).Nodup
  /-- Names have no slashes. -/
  named : ∀ p ∈ t.entries, ∀ x ∈ p.1, '/' ∉ x.toList
  /-- Nothing is below a file. -/
  leaf : ∀ p ∈ t.entries, p.2 ≠ .directory → ∀ q ∈ t.entries, p.1 <+: q.1 → q.1 = p.1

instance (t : FileTree) : Decidable t.IsSound :=
  decidable_of_iff ((t.entries.map Prod.fst).Nodup ∧
      (∀ p ∈ t.entries, ∀ x ∈ p.1, '/' ∉ x.toList) ∧
      ∀ p ∈ t.entries, p.2 ≠ .directory → ∀ q ∈ t.entries, p.1 <+: q.1 → q.1 = p.1)
    ⟨fun h => ⟨h.1, h.2.1, h.2.2⟩, fun h => ⟨h.nodup, h.named, h.leaf⟩⟩

theorem IsSound.eq_of_mem (h : t.IsSound) {e' : Entry} (he : (place, e) ∈ t.entries)
    (he' : (place, e') ∈ t.entries) : e = e' := by
  have hpair := List.inj_on_of_nodup_map h.nodup he he' rfl
  exact (Prod.mk.inj hpair).2

theorem IsSound.lookup_iff (h : t.IsSound) :
    t.entries.lookup place = some e ↔ (place, e) ∈ t.entries := by
  have hmem : ∀ {e'}, t.entries.lookup place = some e' → (place, e') ∈ t.entries := by
    intro e' hlookup
    obtain ⟨above, below, hentries, _⟩ := List.lookup_eq_some_iff.mp hlookup
    rw [hentries]
    exact List.mem_append_right above List.mem_cons_self
  constructor
  · exact hmem
  · intro he
    cases hlookup : t.entries.lookup place with
    | none =>
      have hne := List.lookup_eq_none_iff.mp hlookup (place, e) he
      exact absurd hne (by simp)
    | some e' => rw [h.eq_of_mem he (hmem hlookup)]

theorem IsSound.entryAt_file_iff (h : t.IsSound) :
    t.entryAt place = some (.file bytes) ↔ (place, .file bytes) ∈ t.entries := by
  rw [← h.lookup_iff]
  unfold entryAt
  cases t.entries.lookup place with
  | none =>
    dsimp only
    split
    · simp
    · simp
  | some e => rfl

/-- A directory is at the root and wherever something is that is no file itself. -/
theorem IsSound.entryAt_directory_iff (h : t.IsSound) :
    t.entryAt place = some .directory ↔ (∀ bytes, (place, .file bytes) ∉ t.entries) ∧
      (place = [] ∨ ∃ p ∈ t.entries, place <+: p.1) := by
  have hbelow : (place.isEmpty || t.entries.any fun p => place.isPrefixOf p.1) = true ↔
      place = [] ∨ ∃ p ∈ t.entries, place <+: p.1 := by
    rw [Bool.or_eq_true, List.isEmpty_iff, List.any_eq_true]
    simp only [List.isPrefixOf_iff_prefix]
  unfold entryAt
  cases hlookup : t.entries.lookup place with
  | none =>
    have hnone : ∀ bytes, (place, .file bytes) ∉ t.entries := by
      intro bytes hmem
      rw [← h.lookup_iff, hlookup] at hmem
      cases hmem
    dsimp only
    split
    · rename_i hsome
      exact iff_of_true rfl ⟨hnone, hbelow.mp hsome⟩
    · rename_i hsome
      exact iff_of_false (by simp) fun hboth => hsome (hbelow.mpr hboth.2)
  | some e =>
    have hmem := h.lookup_iff.mp hlookup
    cases e with
    | file bytes => exact iff_of_false (by simp) fun hboth => hboth.1 bytes hmem
    | directory =>
      refine iff_of_true rfl ⟨?_, Or.inr ⟨_, hmem, List.prefix_rfl⟩⟩
      intro bytes hfile
      cases h.eq_of_mem hmem hfile

/-! ## Files below a directory -/

theorem relativeTo?_eq_some_iff : relativeTo? dir place = some rest ↔ place = dir ++ rest := by
  induction dir generalizing place with
  | nil => simp [relativeTo?]
  | cons d ds ih =>
    cases place with
    | nil => simp [relativeTo?]
    | cons c cs =>
      rw [relativeTo?]
      by_cases hdc : d = c
      · subst hdc
        simp [ih]
      · simp [hdc, Ne.symm hdc]

/-- An entry as a file below a directory, if it is one. -/
def below? (dir : List String) (p : List String × Entry) : Option (List String × List UInt8) :=
  match p.2, relativeTo? dir p.1 with
  | .file bytes, some rest => if rest.isEmpty then none else some (rest, bytes)
  | _, _ => none

theorem below?_eq_some_iff {p : List String × Entry} :
    below? dir p = some (rest, bytes) ↔ rest ≠ [] ∧ p = (dir ++ rest, .file bytes) := by
  obtain ⟨place, e⟩ := p
  unfold below?
  cases e with
  | directory => simp
  | file content =>
    cases hrelative : relativeTo? dir place with
    | none =>
      have hne : place ≠ dir ++ rest := by
        intro heq
        rw [relativeTo?_eq_some_iff.mpr heq] at hrelative
        cases hrelative
      simp [hne]
    | some rest' =>
      obtain rfl := relativeTo?_eq_some_iff.mp hrelative
      cases rest' with
      | nil => simp +contextual [eq_comm]
      | cons x rest' =>
        simp +contextual [eq_comm]

theorem filesBelow_perm (t : FileTree) (dir : List String) :
    (t.filesBelow dir).Perm (t.entries.filterMap (below? dir)) :=
  List.mergeSort_perm _ _

/-- The files below a directory are the entries of files whose places go on behind its own. -/
theorem mem_filesBelow : (rest, bytes) ∈ t.filesBelow dir ↔
    rest ≠ [] ∧ (dir ++ rest, .file bytes) ∈ t.entries := by
  rw [(filesBelow_perm t dir).mem_iff, List.mem_filterMap]
  simp only [below?_eq_some_iff]
  constructor
  · rintro ⟨_, hmem, hne, rfl⟩
    exact ⟨hne, hmem⟩
  · rintro ⟨hne, hmem⟩
    exact ⟨_, hmem, hne, rfl⟩

/-- They come in the order of their places, each once. -/
theorem IsSound.filesBelow_pairwise (h : t.IsSound) (dir : List String) :
    (t.filesBelow dir).Pairwise fun f g => f.1 < g.1 := by
  have hentries : (t.entries.filterMap (below? dir)).Pairwise fun f g => f.1 ≠ g.1 := by
    rw [List.pairwise_filterMap]
    refine (List.pairwise_map.mp h.nodup).imp ?_
    rintro p q hne ⟨rest, bytes⟩ hp ⟨rest', bytes'⟩ hq rfl
    rw [(below?_eq_some_iff.mp hp).2, (below?_eq_some_iff.mp hq).2] at hne
    exact hne rfl
  exact pairwise_lt_mergeSort Prod.fst (fun f g => placeBefore_iff) (List.pairwise_map.mpr hentries)

/-- There is one way to list them in that order. -/
theorem IsSound.filesBelow_eq (h : t.IsSound) {files : List (List String × List UInt8)}
    (hperm : (t.entries.filterMap (below? dir)).Perm files)
    (hsorted : files.Pairwise fun f g => f.1 < g.1) : t.filesBelow dir = files := by
  refine List.Perm.eq_of_pairwise ?_ (h.filesBelow_pairwise dir) hsorted
    ((filesBelow_perm t dir).trans hperm)
  intro f g _ _ hfg hgf
  exact absurd hgf (lt_asymm hfg)

/-! ## One more file -/

/-- What is in the first tree is in the second too. -/
def Extends (t u : FileTree) : Prop :=
  ∀ place e, t.entryAt place = some e → u.entryAt place = some e

namespace Extends

theorem follow (h : t.Extends u) {names : List String}
    (hfollow : t.follow dir names = .ok place) : u.follow dir names = .ok place := by
  fun_induction FileTree.follow t dir names with
  | case1 dir => exact hfollow
  | case2 dir rest hroot => cases hfollow
  | case3 dir rest hdir ih =>
    rw [FileTree.follow, if_neg hdir]
    exact ih hfollow
  | case4 dir x rest hx hnone => cases hfollow
  | case5 dir x rest hx hentry ih =>
    rw [FileTree.follow, h _ _ hentry]
    · exact ih hfollow
    · exact hx
  | case6 dir x rest hx bytes hentry hend =>
    rw [FileTree.follow, h _ _ hentry]
    · exact (if_pos hend).trans hfollow
    · exact hx
  | case7 dir x rest hx bytes hentry hmore => cases hfollow

theorem resolve (h : t.Extends u) {path : String} (hresolve : t.resolve path = .ok place) :
    u.resolve path = .ok place := by
  unfold FileTree.resolve at hresolve ⊢
  split at hresolve
  · cases hresolve
  · rename_i hrelative
    rw [if_neg hrelative]
    exact h.follow hresolve

theorem entry (h : t.Extends u) {path : String} (hentry : t.entry path = .ok e) :
    u.entry path = .ok e := by
  unfold FileTree.entry at hentry ⊢
  obtain ⟨place, hplace, hat⟩ := bind_eq_ok.mp hentry
  rw [h.resolve hplace, ok_bind]
  cases hsome : t.entryAt place with
  | none =>
    rw [hsome] at hat
    cases hat
  | some e' =>
    rw [hsome] at hat
    rw [h _ _ hsome]
    exact hat

end Extends

section

variable (ht : t.IsSound) (hu : u.IsSound)
  (hperm : u.entries.Perm ((place, .file bytes) :: t.entries))

include ht hu hperm

/-- With one more file, the files of a tree are that one and those it had. -/
theorem entryAt_file_of_perm {p : List String} {content : List UInt8} :
    u.entryAt p = some (.file content) ↔
      p = place ∧ content = bytes ∨ t.entryAt p = some (.file content) := by
  rw [hu.entryAt_file_iff, ht.entryAt_file_iff, hperm.mem_iff, List.mem_cons]
  simp

/-- With one more file, every path leads to what it led to before. -/
theorem extends_of_perm (hplace : place ≠ []) : t.Extends u := by
  intro p e he
  have hkept : ∀ q ∈ t.entries, q ∈ u.entries := fun q hq =>
    hperm.mem_iff.mpr (List.mem_cons_of_mem _ hq)
  cases e with
  | file content => exact (entryAt_file_of_perm ht hu hperm).mpr (Or.inr he)
  | directory =>
    rw [ht.entryAt_directory_iff] at he
    rw [hu.entryAt_directory_iff]
    obtain ⟨hnone, hsome⟩ := he
    refine ⟨?_, hsome.imp id fun ⟨q, hq, hprefix⟩ => ⟨q, hkept q hq, hprefix⟩⟩
    intro content hmem
    rcases List.mem_cons.mp (hperm.mem_iff.mp hmem) with hnew | hold
    · -- The new file would have something below it.
      obtain ⟨rfl, rfl⟩ : p = place ∧ content = bytes := by simpa using hnew
      obtain ⟨q, hq, hprefix⟩ := hsome.resolve_left hplace
      have hsame : q.1 = p := hu.leaf _ hmem nofun q (hkept q hq) hprefix
      have hnodup : (((p, Entry.file content) :: t.entries).map Prod.fst).Nodup :=
        (hperm.map Prod.fst).nodup_iff.mp hu.nodup
      rw [List.map_cons, List.nodup_cons] at hnodup
      exact hnodup.1 (List.mem_map.mpr ⟨q, hq, hsame⟩)
    · exact hnone content hold

end

end Assay.FileTree
