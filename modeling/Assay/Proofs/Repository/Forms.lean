import Assay.Proofs.Repository.Naming

/-!
# The forms in which a repository is named

* `withoutEnding_ended`, `withoutEnding_eq_self`: the ending is taken away where there is one;
* `parse_forms`: the forms in which every owner, name and branch is read;
* `parse_usable_iff`: a target is refused, or names a repository that can be asked for, exactly if
  its name is more than an ending.
-/

namespace Assay

namespace RepositoryName

open Pattern

/-! ## Endings -/

/-- Nothing comes after the ending but a newline. -/
def IsLineEnd (rest : List Char) : Prop :=
  rest = [] ∨ rest = ['\n']

theorem IsLineEnd.length_le {rest : List Char} (h : IsLineEnd rest) : rest.length ≤ 1 := by
  rcases h with rfl | rfl <;> simp

theorem ending_takes_iff {before : Option Char} {w rest : List Char} :
    ending.Takes before w rest ↔ w = ".git".toList ∧ IsLineEnd rest := by
  constructor
  · rintro ⟨u, v, rfl, hu, rfl, hend⟩
    rw [takes_lit_iff.mp hu]
    exact ⟨by simp, by simpa [Cursor.atTextEnd, IsLineEnd] using hend⟩
  · rintro ⟨rfl, hend⟩
    refine ⟨".git".toList, [], by simp, takes_lit_iff.mpr rfl, rfl, ?_⟩
    simpa [Cursor.atTextEnd, IsLineEnd] using hend

/-- The ending does not start before itself. -/
theorem not_ended_earlier {x : Char} {later rest rest' : List Char} (hrest' : IsLineEnd rest') :
    x :: (later ++ (".git".toList ++ rest)) ≠ ".git".toList ++ rest' := by
  intro h
  have hlength := congrArg List.length h
  have hle := hrest'.length_le
  simp only [List.length_cons, List.length_append] at hlength
  obtain rfl : later = [] := List.length_eq_zero_iff.mp (by omega)
  rw [List.nil_append] at h
  exact absurd (List.cons.inj (List.cons.inj h).2).1 (by decide)

theorem withoutEnding_ended (s rest : List Char) (h : IsLineEnd rest) :
    withoutEnding (s ++ (".git".toList ++ rest)) = s ++ rest := by
  let c := (Cursor.start (s ++ (".git".toList ++ rest))).after s (".git".toList ++ rest)
  have hlit : (lit ".git").Prefers c [] (c.after ".git".toList rest) [] := prefers_lit rfl
  have hend : textEnd.Prefers (c.after ".git".toList rest) [] (c.after ".git".toList rest) [] := by
    refine prefers_textEnd ?_
    rcases h with rfl | rfl <;> rfl
  have hlead : ∀ x later, x :: later <:+ s → ∀ pos before,
      ending.ends ⟨pos, before, x :: (later ++ (".git".toList ++ rest))⟩ [] = [] := by
    intro x later _ pos before
    refine ends_eq_nil_iff.mpr fun w r hr hw => ?_
    obtain ⟨rfl, hend⟩ := ending_takes_iff.mp hw
    exact not_ended_earlier hend hr
  have hall : ending.Prefers c [] (c.after ".git".toList rest) [] := hlit.append hend
  rw [withoutEnding, search?_of_prefers hlead hall]
  simp [c, Cursor.after, Cursor.start]

theorem withoutEnding_eq_self {s : List Char}
    (h : ∀ a rest, IsLineEnd rest → s ≠ a ++ (".git".toList ++ rest)) : withoutEnding s = s := by
  have hsearch : ending.search? s = none := by
    rw [← Option.not_isSome_iff_eq_none]
    intro hfound
    obtain ⟨a, w, r, htext, hw⟩ := occursIn_iff.mp hfound
    obtain ⟨rfl, hend⟩ := ending_takes_iff.mp hw
    exact h a r hend (by rw [htext, List.append_assoc])
  rw [withoutEnding, hsearch]

/-- A name ends with the ending, perhaps before a newline, or is left as it is. -/
theorem withoutEnding_cases (s : List Char) :
    (∃ a rest, IsLineEnd rest ∧ s = a ++ (".git".toList ++ rest) ∧ withoutEnding s = a ++ rest) ∨
      withoutEnding s = s := by
  by_cases h : ∃ a rest, IsLineEnd rest ∧ s = a ++ (".git".toList ++ rest)
  · obtain ⟨a, rest, hrest, rfl⟩ := h
    exact .inl ⟨a, rest, hrest, rfl, withoutEnding_ended a rest hrest⟩
  · exact .inr (withoutEnding_eq_self fun a rest hrest heq => h ⟨a, rest, hrest, heq⟩)

theorem withoutEnding_subset (s : List Char) : withoutEnding s ⊆ s := by
  rcases withoutEnding_cases s with ⟨a, rest, _, rfl, heq⟩ | heq
  · rw [heq]
    exact List.append_subset.mpr ⟨List.subset_append_left _ _,
      List.Subset.trans (List.subset_append_right _ _) (List.subset_append_right _ _)⟩
  · rw [heq]
    exact List.Subset.refl s

/-- Only the ending itself leaves nothing. -/
theorem withoutEnding_eq_nil_iff {s : List Char} (hs : s ≠ []) :
    withoutEnding s = [] ↔ s = ".git".toList := by
  constructor
  · intro h
    rcases withoutEnding_cases s with ⟨a, rest, _, rfl, heq⟩ | heq
    · obtain ⟨rfl, rfl⟩ := List.append_eq_nil_iff.mp (heq.symm.trans h)
      simp
    · exact absurd (heq.symm.trans h) hs
  · rintro rfl
    exact withoutEnding_ended [] [] (.inl rfl)

/-! ## Forms -/

/-- Neither slashes nor blanks. -/
def IsPlain (s : String) : Prop :=
  ∀ c ∈ s.toList, c ≠ '/' ∧ Text.isBlank c = false

instance (s : String) : Decidable (IsPlain s) :=
  List.decidableBAll (fun c => c ≠ '/' ∧ Text.isBlank c = false) s.toList

theorem IsPlain.noSlash {s : String} (h : IsPlain s) : '/' ∉ s.toList :=
  fun hc => (h '/' hc).1 rfl

theorem IsPlain.append {s t : String} (hs : IsPlain s) (ht : IsPlain t) : IsPlain (s ++ t) := by
  unfold IsPlain
  rw [String.toList_append]
  exact List.forall_mem_append.mpr ⟨hs, ht⟩

/-- A text that an owner, a name or a branch may be. -/
structure IsPart (s : String) : Prop where
  nonempty : s ≠ ""
  plain : IsPlain s

theorem IsPart.solid {s : String} (h : IsPart s) : IsSolid s :=
  ⟨h.nonempty, fun c hc => (h.plain c hc).2⟩

theorem IsPart.append {s t : String} (hs : IsPart s) (ht : IsPlain t) : IsPart (s ++ t) :=
  ⟨fun h => hs.nonempty (String.append_eq_empty_iff.mp h).1, hs.plain.append ht⟩

/-- Components without blanks are read as they are, with blanks around them or not. -/
theorem parse_join {before after : String} {parts : List String}
    (hbefore : ∀ c ∈ before.toList, Text.isBlank c = true)
    (hafter : ∀ c ∈ after.toList, Text.isBlank c = true) (hne : parts ≠ [])
    (hparts : ∀ p ∈ parts, IsPlain p) {r : RepositoryName} (hr : written? parts = some r) :
    parse (before ++ Text.join "/" parts ++ after) = .ok (dropEnding r) := by
  obtain ⟨p, others, rfl⟩ := List.exists_cons_of_ne_nil hne
  have hsolid : ∀ c ∈ (Text.join "/" (p :: others)).toList, Text.isBlank c = false := by
    intro c hc
    rw [show (Text.join "/" (p :: others)).toList = _ from Text.toList_join_cons '/' p others] at hc
    rcases List.mem_append.mp hc with hc | hc
    · exact (hparts p (by simp) c hc).2
    · obtain ⟨q, hq, hc⟩ := List.mem_flatMap.mp hc
      rcases List.mem_cons.mp hc with rfl | hc
      · rfl
      · exact (hparts q (by simp [hq]) c hc).2
  have htrimmed : Text.trimmed (before ++ Text.join "/" (p :: others) ++ after) =
      Text.join "/" (p :: others) := by
    apply String.toList_injective
    rw [Text.trimmed, String.toList_ofList, String.toList_append, String.toList_append]
    refine Text.trims_iff.mp ⟨⟨before.toList, after.toList, rfl, hbefore, hafter⟩, ?_, ?_⟩
    · exact fun c hc => hsolid c (List.mem_of_mem_head? hc)
    · exact fun c hc => hsolid c (List.mem_of_getLast? hc)
  have hcut : partsOf (before ++ Text.join "/" (p :: others) ++ after) = p :: others := by
    rw [partsOf, htrimmed]
    exact Text.cut_join (List.cons_ne_nil p others) fun q hq => (hparts q hq).noSlash
  rw [parse_eq, hcut, hr]

section

variable {owner name : String} {rest : List String}

theorem written_scheme (howner : owner ≠ "") (hname : name ≠ "") :
    written? ("https:" :: "" :: "github.com" :: owner :: name :: rest) =
      some ⟨owner, name, branchPart? rest⟩ := by
  have hscheme : isHost "https:" = false := by decide
  have hgap : isHost "" = false := by decide
  have hhost : isHost "github.com" = true := by decide
  simp [written?, addressed?, hscheme, hgap, hhost, howner, hname]

theorem written_host (howner : owner ≠ "") (hname : name ≠ "") :
    written? ("github.com" :: owner :: name :: rest) = some ⟨owner, name, branchPart? rest⟩ := by
  have hhost : isHost "github.com" = true := by decide
  simp [written?, addressed?, hhost, howner, hname]

theorem written_standing (howner : IsSolid owner) (hname : IsSolid name) :
    written? [owner, name] = some ⟨owner, name, none⟩ := by
  simp [written?, addressed?, standing?, howner, hname]

end

/-- A name is the same written with the ending and without it. -/
theorem dropEnding_written {owner name written : String} (branch : Option String)
    (hname : IsPart name) (hending : ¬ ".git".toList <:+ name.toList)
    (hwritten : written ∈ [name, name ++ ".git"]) :
    dropEnding ⟨owner, written, branch⟩ = ⟨owner, name, branch⟩ := by
  have hdrop : withoutEnding written.toList = name.toList := by
    simp only [List.mem_cons, List.not_mem_nil, or_false] at hwritten
    rcases hwritten with rfl | rfl
    · refine withoutEnding_eq_self fun a rest hrest heq => ?_
      rcases hrest with rfl | rfl
      · exact hending ⟨a, by simpa using heq.symm⟩
      · have hblank := hname.solid.2 '\n' (by rw [heq]; simp)
        cases hblank
    · rw [String.toList_append]
      simpa using withoutEnding_ended name.toList [] (.inl rfl)
  rw [dropEnding, hdrop, String.ofList_toList]

/-- **The forms of a name.** Every owner, name and branch is read as it is, whatever they are: in an
address with the scheme or without it, as a name that stands alone, with the ending or without it,
and with blanks around all of it. -/
theorem parse_forms (before after owner name branch : String)
    (hbefore : ∀ c ∈ before.toList, Text.isBlank c = true)
    (hafter : ∀ c ∈ after.toList, Text.isBlank c = true) (howner : IsPart owner)
    (hname : IsPart name) (hbranch : IsPart branch) (hending : ¬ ".git".toList <:+ name.toList) :
    (∀ written ∈ [name, name ++ ".git"],
      ∀ text ∈ ["https://github.com/" ++ owner ++ "/" ++ written,
          "github.com/" ++ owner ++ "/" ++ written, owner ++ "/" ++ written],
        parse (before ++ text ++ after) = .ok ⟨owner, name, none⟩) ∧
      parse (before ++ ("github.com/" ++ owner ++ "/" ++ name ++ "/") ++ after) =
        .ok ⟨owner, name, none⟩ ∧
      parse (before ++ ("https://github.com/" ++ owner ++ "/" ++ name ++ "/tree/" ++ branch) ++
        after) = .ok ⟨owner, name, some branch⟩ := by
  have hfixed : IsPlain "https:" ∧ IsPlain "" ∧ IsPlain "github.com" ∧ IsPlain "tree" := by decide
  have hread (parts : List String) (written : String) (b : Option String) {text : String}
      (hwritten : written ∈ [name, name ++ ".git"])
      (htext : text.toList = (Text.join "/" parts).toList) (hne : parts ≠ [])
      (hparts : ∀ p ∈ parts, IsPlain p) (hr : written? parts = some ⟨owner, written, b⟩) :
      parse (before ++ text ++ after) = .ok ⟨owner, name, b⟩ := by
    rw [String.toList_injective htext, parse_join hbefore hafter hne hparts hr,
      dropEnding_written b hname hending hwritten]
  refine ⟨?_, ?_, ?_⟩
  · intro written hwritten text htext
    have hpart : IsPart written := by
      simp only [List.mem_cons, List.not_mem_nil, or_false] at hwritten
      rcases hwritten with rfl | rfl
      · exact hname
      · exact hname.append (by decide)
    simp only [List.mem_cons, List.not_mem_nil, or_false] at htext
    rcases htext with rfl | rfl | rfl
    · exact hread ["https:", "", "github.com", owner, written] written none hwritten
        (by simp [Text.join]) (by simp) (by simp [hfixed, howner.plain, hpart.plain])
        (written_scheme howner.nonempty hpart.nonempty)
    · exact hread ["github.com", owner, written] written none hwritten
        (by simp [Text.join]) (by simp) (by simp [hfixed, howner.plain, hpart.plain])
        (written_host howner.nonempty hpart.nonempty)
    · exact hread [owner, written] written none hwritten
        (by simp [Text.join]) (by simp) (by simp [howner.plain, hpart.plain])
        (written_standing howner.solid hpart.solid)
  · exact hread ["github.com", owner, name, ""] name none List.mem_cons_self
      (by simp [Text.join]) (by simp) (by simp [hfixed, howner.plain, hname.plain])
      (written_host howner.nonempty hname.nonempty)
  · have hwritten : written? ["https:", "", "github.com", owner, name, "tree", branch] =
        some ⟨owner, name, some branch⟩ := by
      rw [written_scheme howner.nonempty hname.nonempty]
      simp [branchPart?, hbranch.nonempty]
    exact hread ["https:", "", "github.com", owner, name, "tree", branch] name (some branch)
      List.mem_cons_self (by simp [Text.join]) (by simp)
      (by simp [hfixed, howner.plain, hname.plain, hbranch.plain]) hwritten

/-- A name in which the host, the word before a branch and the ending stand. -/
theorem parse_forms_tricky :
    parse " github.com/github.com/.git.github.com/\n" =
        .ok ⟨"github.com", ".git.github.com", none⟩ ∧
      parse " github.com/.git.github.com.git\n" =
        .ok ⟨"github.com", ".git.github.com", none⟩ ∧
      parse " https://github.com/github.com/.git.github.com/tree/tree\n" =
        .ok ⟨"github.com", ".git.github.com", some "tree"⟩ := by
  have h := parse_forms " " "\n" "github.com" ".git.github.com" "tree"
    (List.all_eq_true.mp (by decide)) (List.all_eq_true.mp (by decide)) ⟨by decide, by decide⟩
    ⟨by decide, by decide⟩ ⟨by decide, by decide⟩ (by decide)
  exact ⟨h.2.1, h.1 ".git.github.com.git" (by decide) "github.com/.git.github.com.git" (by decide),
    h.2.2⟩

/-! ## What can be asked for -/

/-- A repository that the server can be asked for: its owner and its name are segments of an
address, and so is its branch. -/
structure IsUsable (r : RepositoryName) : Prop where
  owner : IsSegment r.owner.toList
  name : IsSegment r.name.toList
  branch : ∀ b ∈ r.branch, IsSegment b.toList

theorem isSegment_toList {s : String} : IsSegment s.toList ↔ s ≠ "" ∧ '/' ∉ s.toList :=
  and_congr_left' (not_congr String.toList_eq_nil_iff)

theorem branchPart_isSegment {parts : List String} (hparts : IsSlashFree parts) :
    ∀ b ∈ branchPart? parts, IsSegment b.toList := by
  intro b hb
  obtain ⟨rest, rfl, hne⟩ := branchPart_eq_some hb
  exact isSegment_toList.mpr ⟨hne, hparts b (by simp)⟩

theorem addressed_isUsable {parts : List String} (hparts : IsSlashFree parts) {r : RepositoryName}
    (h : addressed? parts = some r) : r.IsUsable := by
  fun_induction addressed? parts with
  | case1 host owner name rest hhost =>
    obtain rfl := Option.some.inj h
    obtain ⟨_, howner, hname⟩ := hhost
    obtain ⟨hownerSlash, hrest⟩ := hparts.of_cons.2.of_cons
    obtain ⟨hnameSlash, hrest⟩ := hrest.of_cons
    exact ⟨isSegment_toList.mpr ⟨howner, hownerSlash⟩, isSegment_toList.mpr ⟨hname, hnameSlash⟩,
      branchPart_isSegment hrest⟩
  | case2 host owner name rest _ ih => exact ih hparts.of_cons.2 h
  | case3 => cases h

theorem standing_isUsable {parts : List String} (hparts : IsSlashFree parts) {r : RepositoryName}
    (h : standing? parts = some r) : r.IsUsable := by
  unfold standing? at h
  split at h
  · split at h
    · rename_i owner name hsolid
      obtain rfl := Option.some.inj h
      obtain ⟨hownerSlash, hrest⟩ := hparts.of_cons
      exact ⟨isSegment_toList.mpr ⟨hsolid.1.1, hownerSlash⟩,
        isSegment_toList.mpr ⟨hsolid.2.1, hrest.of_cons.1⟩, by simp⟩
    · cases h
  · cases h

/-- As it is written, a name has all of its parts. -/
theorem written_isUsable {target : String} {r : RepositoryName}
    (h : written? (partsOf target) = some r) : r.IsUsable := by
  have hparts := isSlashFree_partsOf target
  rcases Option.or_eq_some_iff.mp h with haddressed | ⟨_, hstanding⟩
  · exact addressed_isUsable hparts haddressed
  · exact standing_isUsable hparts hstanding

/-- Without its ending, a name is still there unless it is nothing but the ending. -/
theorem dropEnding_isUsable_iff {r : RepositoryName} (h : r.IsUsable) :
    (dropEnding r).IsUsable ↔ r.name ≠ ".git" := by
  have hnil : withoutEnding r.name.toList = [] ↔ r.name = ".git" := by
    rw [withoutEnding_eq_nil_iff h.name.1, String.toList_inj]
  refine Iff.trans ?_ (not_congr hnil)
  constructor
  · intro husable
    have hne := husable.name.1
    rwa [dropEnding, String.toList_ofList] at hne
  · intro hne
    refine ⟨h.owner, ⟨?_, ?_⟩, h.branch⟩
    · rwa [dropEnding, String.toList_ofList]
    · rw [dropEnding, String.toList_ofList]
      exact fun hmem => h.name.2 (withoutEnding_subset _ hmem)

/-- A text behind a slash is its components, each behind a slash. -/
theorem following_cut (s : String) : following (Text.cut s '/') = '/' :: s.toList := by
  obtain ⟨p, parts, hparts⟩ := List.exists_cons_of_ne_nil (Text.cut_ne_nil s '/')
  have hjoin := congrArg String.toList (Text.join_cut s '/')
  rw [hparts, Text.toList_join_cons] at hjoin
  rw [hparts, ← hjoin]
  rfl

/-- An address that is asked for has the owner and the name as two segments of its own. -/
theorem IsUsable.listing {r : RepositoryName} (h : r.IsUsable) (path : String) : ∃ rest,
    Text.cut (r.listingAddress path) '/' =
      ["https:", "", "api.github.com", "repos", r.owner, r.name] ++ rest := by
  let below := if path.isEmpty then [] else Text.cut path '/'
  have hbelow : (if path.isEmpty then "" else "/" ++ path).toList = following below := by
    unfold below
    split
    · rfl
    · rw [following_cut, String.toList_append]
      rfl
  have hfree : IsSlashFree below := by
    unfold below
    split
    · simp [IsSlashFree]
    · exact fun _ hp => Text.notMem_of_mem_cut hp
  have haddress : r.listingAddress path = Text.join (String.singleton '/')
      (["https:", "", "api.github.com", "repos", r.owner, r.name] ++ "contents" :: below) := by
    apply String.toList_injective
    rw [listingAddress, String.toList_append, hbelow, List.cons_append, Text.toList_join_cons]
    simp [documentAddress, service, slug, following]
  refine ⟨"contents" :: below, ?_⟩
  rw [haddress]
  refine Text.cut_join (List.cons_ne_nil _ _) ?_
  have hfixed : ∀ p ∈ ["https:", "", "api.github.com", "repos", "contents"], '/' ∉ p.toList := by
    decide
  intro p hp
  simp only [List.cons_append, List.nil_append, List.mem_cons] at hp hfixed
  rcases hp with rfl | rfl | rfl | rfl | rfl | rfl | rfl | hp
  · exact hfixed _ (by simp)
  · exact hfixed _ (by simp)
  · exact hfixed _ (by simp)
  · exact hfixed _ (by simp)
  · exact h.owner.2
  · exact h.name.2
  · exact hfixed _ (by simp)
  · exact hfree p hp

/-- **What a target may name.** A target is refused, or names a repository that can be asked for,
exactly if what it names is more than an ending. A name that is nothing but the ending is taken, and
nothing is left of it. -/
theorem parse_usable_iff (target : String) :
    (((∃ r, parse target = .ok r ∧ r.IsUsable ∧ ∀ path, ∃ rest,
          Text.cut (r.listingAddress path) '/' =
            ["https:", "", "api.github.com", "repos", r.owner, r.name] ++ rest) ∨
        ∃ e, parse target = .error e ∧ e.isFetch = true) ↔
      ∀ r ∈ written? (partsOf target), r.name ≠ ".git") ∧
    ∀ r ∈ written? (partsOf target), r.name = ".git" →
      parse target = .ok { r with name := "" } := by
  rw [parse_eq]
  cases hr : written? (partsOf target) with
  | none => simp [Failure.isFetch]
  | some r =>
    have husable := dropEnding_isUsable_iff (written_isUsable hr)
    simp only [Option.mem_some_iff, forall_eq']
    constructor
    · rw [← husable]
      constructor
      · rintro (⟨_, ⟨⟩, h, _⟩ | ⟨_, ⟨⟩, _⟩)
        exact h
      · exact fun h => .inl ⟨_, rfl, h, h.listing⟩
    · intro hname
      have hnil : withoutEnding r.name.toList = [] := by
        rw [hname]
        exact withoutEnding_ended [] [] (.inl rfl)
      rw [dropEnding, hnil]

/-- The ending alone is taken for a name, and nothing is left of it. -/
theorem bare_ending_unusable :
    ¬ ((∃ r, parse "github.com/o/.git" = .ok r ∧ r.IsUsable) ∨
      ∃ e, parse "github.com/o/.git" = .error e ∧ e.isFetch = true) := by
  have hparse : parse "github.com/o/.git" = .ok ⟨"o", "", none⟩ := by decide +kernel
  rw [hparse]
  rintro (⟨_, ⟨⟩, h⟩ | ⟨_, ⟨⟩, _⟩)
  exact h.name.1 rfl

end RepositoryName

end Assay
