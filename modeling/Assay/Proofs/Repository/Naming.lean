import Assay.Proofs.Pattern.Preferred
import Assay.Proofs.Text.Parts
import Assay.Proofs.Text.Trim
import Assay.Repository.Fetch

/-!
# What a target names

A target is searched for three forms one after another. What that finds is told by the components
between the slashes of the target.

* `written?`: the repository that components name, as it is written there;
* `searchFrom_address`, `search_bare`: a form is found where the components have it;
* `parse_eq`: reading a target is finding that name and taking its ending away.
-/

namespace Assay

namespace RepositoryName

open Pattern

/-! ## Components -/

/-- The end of a component that names the host; a scheme or a user may come before it. -/
def isHost (s : String) : Bool :=
  "github.com".toList.isSuffixOf s.toList

/-- The branch that the components after a name tell. -/
def branchPart? : List String → Option String
  | mark :: branch :: _ => if mark = "tree" ∧ branch ≠ "" then some branch else none
  | _ => none

/-- The repository that an address names: the first host that has an owner and a name after it
counts. -/
def addressed? : List String → Option RepositoryName
  | host :: owner :: name :: rest =>
    if isHost host = true ∧ owner ≠ "" ∧ name ≠ "" then some ⟨owner, name, branchPart? rest⟩
    else addressed? (owner :: name :: rest)
  | _ => none

/-- A text that is not empty and has no blanks. -/
def IsSolid (s : String) : Prop :=
  s ≠ "" ∧ ∀ c ∈ s.toList, Text.isBlank c = false

instance (s : String) : Decidable (IsSolid s) :=
  have := List.decidableBAll (fun c => Text.isBlank c = false) s.toList
  inferInstanceAs (Decidable (_ ∧ _))

/-- The repository that an owner and a name standing alone name. -/
def standing? : List String → Option RepositoryName
  | [owner, name] => if IsSolid owner ∧ IsSolid name then some ⟨owner, name, none⟩ else none
  | _ => none

/-- The repository that components name, as it is written there. -/
def written? (parts : List String) : Option RepositoryName :=
  (addressed? parts).or (standing? parts)

/-- The components of a target. -/
def partsOf (target : String) : List String :=
  Text.cut (Text.trimmed target) '/'

/-- The name without its ending. -/
def dropEnding (r : RepositoryName) : RepositoryName :=
  { r with name := String.ofList (withoutEnding r.name.toList) }

/-- Components behind slashes. -/
def following (parts : List String) : List Char :=
  parts.flatMap fun p => '/' :: p.toList

theorem following_cons (p : String) (parts : List String) :
    following (p :: parts) = '/' :: (p.toList ++ following parts) := rfl

theorem following_head (parts : List String) : ∀ x ∈ (following parts).head?, x = '/' := by
  cases parts with
  | nil => simp [following]
  | cons p parts => simp [following_cons]

/-- No slash stands in a component. -/
def IsSlashFree (parts : List String) : Prop :=
  ∀ p ∈ parts, '/' ∉ p.toList

theorem IsSlashFree.of_cons {p : String} {parts : List String} (h : IsSlashFree (p :: parts)) :
    '/' ∉ p.toList ∧ IsSlashFree parts :=
  List.forall_mem_cons.mp h

theorem notMem_following {parts : List String} (h : '/' ∉ following parts) : parts = [] := by
  cases parts with
  | nil => rfl
  | cons p parts => exact absurd List.mem_cons_self h

/-- The first component is found again before the others. -/
theorem following_inj {p : List Char} {parts : List String} {s t : List Char} (hp : '/' ∉ p)
    (hs : '/' ∉ s) (h : p ++ following parts = s ++ '/' :: t) :
    p = s ∧ ∃ q rest, parts = q :: rest ∧ q.toList ++ following rest = t := by
  cases parts with
  | nil =>
    have hslash : '/' ∈ p := by
      rw [show p = s ++ '/' :: t by simpa [following] using h]
      simp
    exact absurd hslash hp
  | cons q rest =>
    obtain ⟨hps, ht⟩ := append_cons_inj hp hs h
    exact ⟨hps, q, rest, rfl, ht⟩

/-! ## Addresses -/

/-- A text that is not empty and has no slash. -/
def IsSegment (s : List Char) : Prop :=
  s ≠ [] ∧ '/' ∉ s

theorem noSlash_mem_iff {x : Char} : (CharClass.noneOf "/").mem x = true ↔ x ≠ '/' := by
  simp [CharClass.mem, CharClass.noneOf]

theorem segment_takes_iff {n : Nat} {before : Option Char} {w rest : List Char} :
    (capture n segment).Takes before w rest ↔ IsSegment w := by
  have hall : (∀ x ∈ w, (CharClass.noneOf "/").mem x = true) ↔ '/' ∉ w := by
    simp only [noSlash_mem_iff]
    exact ⟨fun h hmem => h '/' hmem rfl, fun h x hx heq => h (heq ▸ hx)⟩
  exact and_congr (Nat.one_le_iff_ne_zero.trans (not_congr List.length_eq_zero_iff)) hall

/-- A segment is as long as the component that it is found in. -/
theorem prefers_segment {c : Cursor} {caps : Captures} {p : String} {parts : List String}
    (hp : '/' ∉ p.toList) (hne : p ≠ "") (hc : c.rest = p.toList ++ following parts) (n : Nat) :
    (capture n segment).Prefers c caps (c.after p.toList (following parts))
      ((n, p.toList) :: caps) := by
  have hrun : segment.Prefers c caps (c.after p.toList (following parts)) caps := by
    refine prefers_run hc (List.length_pos_iff.mpr (by simpa using hne)) ?_ ?_
    · exact fun x hx => noSlash_mem_iff.mpr fun heq => hp (heq ▸ hx)
    · intro x hx
      rw [following_head parts x hx]
      decide
  have hcapture := hrun.capture n
  rwa [Cursor.textTo_after hc] at hcapture

/-- A component is not empty where a segment starts with it. -/
theorem ne_empty_of_segment {p : String} {parts : List String} {s t : List Char}
    (hs : IsSegment s) (h : p.toList ++ following parts = s ++ t) : p ≠ "" := by
  rintro rfl
  obtain ⟨x, s', rfl⟩ := List.exists_cons_of_ne_nil hs.1
  have hx : x = '/' := following_head parts x (by rw [show following parts = _ from h]; rfl)
  exact hs.2 (hx ▸ List.mem_cons_self)

theorem addressed_takes {before : Option Char} {w rest : List Char}
    (h : addressed.Takes before w rest) : ∃ owner name,
      w = "github.com".toList ++ '/' :: (owner ++ '/' :: name) ∧ IsSegment owner ∧
        IsSegment name := by
  obtain ⟨_, name, rfl, ⟨_, _, rfl, ⟨_, owner, rfl, hhost, howner⟩, hslash⟩, hname⟩ := h
  refine ⟨owner, name, ?_, segment_takes_iff.mp howner, segment_takes_iff.mp hname⟩
  rw [takes_lit_iff.mp hhost, takes_lit_iff.mp hslash]
  simp

/-- No address starts where the host does not come before an owner and a name. -/
theorem ends_addressed_eq_nil {p : List Char} {parts : List String} (hp : '/' ∉ p)
    (hparts : IsSlashFree parts)
    (h : ∀ owner name rest, p = "github.com".toList → parts = owner :: name :: rest →
      ¬ (owner ≠ "" ∧ name ≠ "")) (pos : Nat) (before : Option Char) :
    addressed.ends ⟨pos, before, p ++ following parts⟩ [] = [] := by
  apply ends_eq_nil_iff.mpr
  intro w r hr hw
  obtain ⟨s, t, rfl, hs, ht⟩ := addressed_takes hw
  have htext : p ++ following parts = "github.com".toList ++ '/' :: (s ++ '/' :: (t ++ r)) := by
    simpa using hr
  obtain ⟨hhost, owner, others, rfl, howner⟩ := following_inj hp (by decide) htext
  obtain ⟨hslash, hothers⟩ := hparts.of_cons
  obtain ⟨hsegment, name, rest, rfl, hname⟩ := following_inj hslash hs.2 howner
  refine h owner name rest hhost rfl ⟨?_, ne_empty_of_segment ht hname⟩
  rintro rfl
  exact hs.1 hsegment.symm

theorem ends_address_eq_nil {c : Cursor} (h : addressed.ends c [] = []) :
    address.ends c [] = [] :=
  ends_append_eq_nil h

/-- A search for an address passes over a component after which no owner and name come, and over
the slash behind it. -/
theorem searchFrom_component {p q : String} {parts : List String} (hp : '/' ∉ p.toList)
    (hparts : IsSlashFree (q :: parts))
    (h : ∀ name rest, isHost p = true → parts = name :: rest → ¬ (q ≠ "" ∧ name ≠ ""))
    (pos : Nat) (before : Option Char) : ∃ pos' before',
      address.searchFrom pos before (p.toList ++ following (q :: parts)) =
        address.searchFrom pos' before' (q.toList ++ following parts) := by
  refine ⟨pos + (p.toList ++ ['/']).length, (p.toList ++ ['/']).getLast?.or before, ?_⟩
  have htext : p.toList ++ following (q :: parts) =
      (p.toList ++ ['/']) ++ (q.toList ++ following parts) := by
    rw [following_cons, List.append_assoc]
    rfl
  rw [htext]
  apply searchFrom_append
  intro x later hsuffix pos before
  obtain hnil | ⟨b, hb, hbp⟩ := List.suffix_concat_iff.mp hsuffix
  · cases hnil
  · have hrest : x :: (later ++ (q.toList ++ following parts)) = b ++ following (q :: parts) := by
      rw [← List.cons_append, hb, following_cons, List.append_assoc]
      rfl
    rw [hrest]
    apply ends_address_eq_nil
    refine ends_addressed_eq_nil (fun hmem => hp (hbp.subset hmem)) hparts ?_ pos before
    rintro owner name rest rfl ⟨⟩
    exact h name rest (List.isSuffixOf_iff_suffix.mpr hbp) rfl

/-- What is remembered of the branch. -/
def branchCapture (parts : List String) : Captures :=
  ((branchPart? parts).map fun b => (3, b.toList)).toList

theorem branchPart_eq_some {parts : List String} {b : String} (h : branchPart? parts = some b) :
    ∃ rest, parts = "tree" :: b :: rest ∧ b ≠ "" := by
  unfold branchPart? at h
  split at h
  · split at h
    · rename_i mark branch rest hmark
      obtain ⟨rfl, hne⟩ := hmark
      obtain rfl := Option.some.inj h
      exact ⟨rest, rfl, hne⟩
    · cases h
  · cases h

/-- The branch is read where the components tell one. -/
theorem prefers_branch {c : Cursor} {parts : List String} (hparts : IsSlashFree parts)
    (hc : c.rest = following parts) (caps : Captures) :
    ∃ d, (maybe (lit "/tree/" ++ capture 3 segment)).Prefers c caps d
      (branchCapture parts ++ caps) := by
  unfold branchCapture
  cases hbranch : branchPart? parts with
  | some b =>
    obtain ⟨rest, rfl, hne⟩ := branchPart_eq_some hbranch
    have hb : '/' ∉ b.toList := hparts b (by simp)
    have hmark : (lit "/tree/").Prefers c caps
        (c.after "/tree/".toList (b.toList ++ following rest)) caps :=
      prefers_lit (by rw [hc]; rfl)
    exact ⟨_, (hmark.append (prefers_segment hb hne rfl 3)).maybe⟩
  | none =>
    refine ⟨c, prefers_maybe_of_nil (ends_eq_nil_iff.mpr ?_)⟩
    rintro _ r hr ⟨u, s, rfl, hmark, hs⟩
    have hsegment : IsSegment s := segment_takes_iff.mp hs
    rw [hc, takes_lit_iff.mp hmark] at hr
    have htext : [] ++ following parts = [] ++ '/' :: ("tree".toList ++ '/' :: (s ++ r)) := by
      simpa using hr
    obtain ⟨_, mark, others, rfl, hothers⟩ := following_inj (by simp) (by simp) htext
    obtain ⟨hslash, _⟩ := hparts.of_cons
    obtain ⟨hword, b, rest, rfl, hb⟩ := following_inj hslash (by decide) hothers
    obtain rfl : mark = "tree" := String.toList_injective hword
    simp [branchPart?, ne_empty_of_segment hsegment hb] at hbranch

/-- At the host an owner and a name are read. -/
theorem prefers_addressed {c : Cursor} {owner name : String} {parts : List String}
    (hparts : IsSlashFree (owner :: name :: parts)) (howner : owner ≠ "") (hname : name ≠ "")
    (hc : c.rest = "github.com".toList ++ following (owner :: name :: parts)) :
    ∃ d, d.rest = following parts ∧
      addressed.Prefers c [] d [(2, name.toList), (1, owner.toList)] := by
  obtain ⟨hownerSlash, hrest⟩ := hparts.of_cons
  obtain ⟨hnameSlash, _⟩ := hrest.of_cons
  have hhost : (lit "github.com/").Prefers c []
      (c.after "github.com/".toList (owner.toList ++ following (name :: parts))) [] :=
    prefers_lit hc
  have hslash {d : Cursor} {caps : Captures} (hd : d.rest = following (name :: parts)) :
      (lit "/").Prefers d caps (d.after ['/'] (name.toList ++ following parts)) caps :=
    prefers_lit hd
  refine ⟨_, ?_, hhost.append (prefers_segment hownerSlash howner rfl 1) |>.append (hslash rfl)
    |>.append (prefers_segment hnameSlash hname rfl 2)⟩
  rfl

/-- What a match of an address remembers. -/
theorem ofMatch_groups {m : Match} {owner name : String} {parts : List String}
    (h : m.groups = branchCapture parts ++ [(2, name.toList), (1, owner.toList)]) :
    ofMatch m = dropEnding ⟨owner, name, branchPart? parts⟩ := by
  unfold branchCapture at h
  cases hbranch : branchPart? parts with
  | none => simp [ofMatch, dropEnding, Match.group?, h, hbranch, List.lookup_cons]
  | some b => simp [ofMatch, dropEnding, Match.group?, h, hbranch, List.lookup_cons]

/-- An address is read at the first host that has an owner and a name after it. -/
theorem searchFrom_host {p owner name : String} {parts : List String}
    (hparts : IsSlashFree (p :: owner :: name :: parts)) (hhost : isHost p = true)
    (howner : owner ≠ "") (hname : name ≠ "") (pos : Nat) (before : Option Char) :
    (address.searchFrom pos before (p.toList ++ following (owner :: name :: parts))).map ofMatch =
      some (dropEnding ⟨owner, name, branchPart? parts⟩) := by
  obtain ⟨lead, hlead⟩ := List.isSuffixOf_iff_suffix.mp hhost
  obtain ⟨hp, hrest⟩ := hparts.of_cons
  let s := "github.com".toList ++ following (owner :: name :: parts)
  have htext : p.toList ++ following (owner :: name :: parts) = lead ++ s := by
    rw [← hlead, List.append_assoc]
  obtain ⟨c, hc, haddressed⟩ := prefers_addressed
    (c := Cursor.after ⟨pos, before, lead ++ s⟩ lead s) hrest howner hname rfl
  obtain ⟨d, hbranch⟩ := prefers_branch hrest.of_cons.2.of_cons.2 hc
    [(2, name.toList), (1, owner.toList)]
  have hnone : ∀ x later, x :: later <:+ lead →
      ∀ pos before, address.ends ⟨pos, before, x :: (later ++ s)⟩ [] = [] := by
    intro x later hsuffix pos before
    have hsplit : x :: (later ++ s) =
        (x :: later ++ "github.com".toList) ++ following (owner :: name :: parts) := by
      simp [s]
    rw [hsplit]
    apply ends_address_eq_nil
    refine ends_addressed_eq_nil (fun hmem => hp ?_) hrest ?_ pos before
    · rw [← hlead]
      rcases List.mem_append.mp hmem with hmem | hmem
      · exact List.mem_append_left _ (hsuffix.subset hmem)
      · exact List.mem_append_right _ hmem
    · -- The host is not longer than itself.
      intro _ _ _ heq
      have hlength := congrArg List.length heq
      simp at hlength
  rw [htext, searchFrom_of_prefers hnone (haddressed.append hbranch), Option.map_some,
    ofMatch_groups rfl]

/-- No address is found in a component. -/
theorem searchFrom_last {p : String} (hp : '/' ∉ p.toList) (pos : Nat) (before : Option Char) :
    address.searchFrom pos before p.toList = none := by
  have hnone {b : List Char} (hb : '/' ∉ b) (pos : Nat) (before : Option Char) :
      address.ends ⟨pos, before, b⟩ [] = [] := by
    have hnothing : IsSlashFree [] := by simp [IsSlashFree]
    have h := ends_addressed_eq_nil hb hnothing (by simp) pos before
    rw [show b ++ following [] = b from List.append_nil b] at h
    exact ends_address_eq_nil h
  have hlater : ∀ x later, x :: later <:+ p.toList →
      ∀ pos before, address.ends ⟨pos, before, x :: (later ++ [])⟩ [] = [] := by
    intro x later hsuffix pos before
    rw [List.append_nil]
    exact hnone (fun hmem => hp (hsuffix.subset hmem)) pos before
  have hsearch := searchFrom_append pos before hlater
  rw [List.append_nil] at hsearch
  rw [hsearch, searchFrom, matchAt?_of_ends_eq_nil (hnone List.not_mem_nil _ _)]

/-- The search for an address finds the one that the components name. -/
theorem searchFrom_address {p : String} {parts : List String} (hparts : IsSlashFree (p :: parts))
    (pos : Nat) (before : Option Char) :
    (address.searchFrom pos before (p.toList ++ following parts)).map ofMatch =
      (addressed? (p :: parts)).map dropEnding := by
  induction parts generalizing p pos before with
  | nil =>
    rw [show p.toList ++ following [] = p.toList from List.append_nil _,
      searchFrom_last hparts.of_cons.1]
    rfl
  | cons q parts ih =>
    obtain ⟨hp, hrest⟩ := hparts.of_cons
    cases parts with
    | nil =>
      obtain ⟨pos', before', hskip⟩ := searchFrom_component hp hrest (by simp) pos before
      rw [hskip, ih hrest]
      rfl
    | cons name parts =>
      by_cases h : isHost p = true ∧ q ≠ "" ∧ name ≠ ""
      · obtain ⟨hhost, howner, hname⟩ := h
        rw [searchFrom_host hparts hhost howner hname, addressed?, if_pos ⟨hhost, howner, hname⟩]
        rfl
      · obtain ⟨pos', before', hskip⟩ := searchFrom_component hp hrest (by
          rintro _ _ hhost ⟨⟩ hnames
          exact h ⟨hhost, hnames⟩) pos before
        rw [hskip, ih hrest, addressed?, if_neg h]

/-! ## Names that stand alone -/

/-- A segment without blanks. -/
def IsBare (s : List Char) : Prop :=
  s ≠ [] ∧ ∀ c ∈ s, c ≠ '/' ∧ Text.isBlank c = false

theorem bareSegment_takes_iff {n : Nat} {before : Option Char} {w rest : List Char} :
    (capture n bareSegment).Takes before w rest ↔ IsBare w := by
  refine and_congr (Nat.one_le_iff_ne_zero.trans (not_congr List.length_eq_zero_iff)) ?_
  simp [CharClass.mem]

theorem bare_takes {before : Option Char} {w rest : List Char} (h : bare.Takes before w rest) :
    before = none ∧ ∃ owner name, w = owner ++ '/' :: name ∧ IsBare owner ∧ IsBare name ∧
      (rest = [] ∨ rest = ['\n']) := by
  obtain ⟨_, _, rfl, ⟨_, name, rfl, ⟨_, _, rfl, ⟨_, owner, rfl, ⟨rfl, hstart⟩, howner⟩, hslash⟩,
    hname⟩, rfl, hend⟩ := h
  rw [takes_lit_iff.mp hslash]
  refine ⟨hstart, owner, name, by simp, bareSegment_takes_iff.mp howner,
    bareSegment_takes_iff.mp hname, ?_⟩
  simpa [Cursor.atTextEnd] using hend

theorem prefers_bareSegment {c : Cursor} {caps : Captures} {p : String} {rest : List Char}
    (hp : IsBare p.toList) (hrest : ∀ x ∈ rest.head?, x = '/') (hc : c.rest = p.toList ++ rest)
    (n : Nat) :
    (capture n bareSegment).Prefers c caps (c.after p.toList rest) ((n, p.toList) :: caps) := by
  have hrun : bareSegment.Prefers c caps (c.after p.toList rest) caps := by
    refine prefers_run hc (List.length_pos_iff.mpr hp.1) ?_ ?_
    · intro x hx
      simpa [CharClass.mem] using hp.2 x hx
    · intro x hx
      rw [hrest x hx]
      decide
  have hcapture := hrun.capture n
  rwa [Cursor.textTo_after hc] at hcapture

theorem isBare_iff {p : String} (hp : '/' ∉ p.toList) : IsBare p.toList ↔ IsSolid p := by
  refine and_congr (by simp) (forall₂_congr fun c hc => and_iff_right ?_)
  rintro rfl
  exact hp hc

/-- A name that stands alone is read as a whole. -/
theorem search_bare_of_solid {owner name : String} (hparts : IsSlashFree [owner, name])
    (howner : IsSolid owner) (hname : IsSolid name) :
    (bare.search? (owner.toList ++ following [name])).map ofMatch =
      some (dropEnding ⟨owner, name, none⟩) := by
  obtain ⟨hownerSlash, hrest⟩ := hparts.of_cons
  let atOwner := Cursor.start (owner.toList ++ following [name])
  let atSlash := atOwner.after owner.toList (following [name])
  let atName := atSlash.after ['/'] (name.toList ++ following [])
  let atEnd := atName.after name.toList (following [])
  have hstart : textStart.Prefers atOwner [] atOwner [] := prefers_textStart rfl
  have hfirst : (capture 1 bareSegment).Prefers atOwner [] atSlash [(1, owner.toList)] :=
    prefers_bareSegment ((isBare_iff hownerSlash).mpr howner) (following_head [name]) rfl 1
  have hslash : (lit "/").Prefers atSlash [(1, owner.toList)] atName [(1, owner.toList)] :=
    prefers_lit rfl
  have hsecond : (capture 2 bareSegment).Prefers atName [(1, owner.toList)] atEnd
      [(2, name.toList), (1, owner.toList)] :=
    prefers_bareSegment ((isBare_iff hrest.of_cons.1).mpr hname) (following_head []) rfl 2
  have hend : textEnd.Prefers atEnd [(2, name.toList), (1, owner.toList)] atEnd
      [(2, name.toList), (1, owner.toList)] := prefers_textEnd rfl
  have hall : bare.Prefers atOwner [] atEnd [(2, name.toList), (1, owner.toList)] :=
    hstart.append hfirst |>.append hslash |>.append hsecond |>.append hend
  have hsearch : bare.search? (owner.toList ++ following [name]) =
      some ⟨atOwner, atEnd, [(2, name.toList), (1, owner.toList)]⟩ :=
    search?_of_prefers (fun _ _ hsuffix => absurd (List.suffix_nil.mp hsuffix) (by simp)) hall
  rw [hsearch, Option.map_some]
  exact congrArg some
    (ofMatch_groups rfl : _ = dropEnding ⟨owner, name, branchPart? []⟩)

/-- Where a name that stands alone is found, an owner and a name are all that there is, in a text
that does not end with a blank. -/
theorem solid_of_search_bare {p : String} {parts : List String} (hparts : IsSlashFree (p :: parts))
    (hlast : ∀ c ∈ (p.toList ++ following parts).getLast?, Text.isBlank c = false)
    (hfound : (bare.search? (p.toList ++ following parts)).isSome = true) :
    ∃ name, parts = [name] ∧ IsSolid p ∧ IsSolid name := by
  obtain ⟨a, w, r, htext, hw⟩ := occursIn_iff.mp hfound
  obtain ⟨hstart, owner, name, rfl, howner, hname, hend⟩ := bare_takes hw
  obtain rfl : a = [] := List.getLast?_eq_none_iff.mp hstart
  rcases hend with rfl | rfl
  · -- All of the text is an owner and a name.
    have hwhole : p.toList ++ following parts = owner ++ '/' :: name := by simpa using htext
    obtain ⟨hp, q, rest, rfl, hq⟩ := following_inj hparts.of_cons.1
      (fun hmem => (howner.2 '/' hmem).1 rfl) hwhole
    have hslash : '/' ∉ following rest := fun hmem =>
      (hname.2 '/' (hq ▸ List.mem_append_right _ hmem)).1 rfl
    obtain rfl := notMem_following hslash
    have hq : q.toList = name := by simpa [following] using hq
    refine ⟨q, rfl, ?_, ?_⟩
    · exact (isBare_iff hparts.of_cons.1).mp (hp ▸ howner)
    · exact (isBare_iff hparts.of_cons.2.of_cons.1).mp (hq ▸ hname)
  · have hnewline := hlast '\n' (by
      rw [htext, List.getLast?_concat]
      rfl)
    cases hnewline

theorem standing?_eq_none {p : String} {parts : List String}
    (h : ¬ ∃ name, parts = [name] ∧ IsSolid p ∧ IsSolid name) : standing? (p :: parts) = none := by
  unfold standing?
  split
  · rename_i owner name heq
    obtain ⟨rfl, rfl⟩ := List.cons.inj heq
    exact if_neg fun hsolid => h ⟨name, rfl, hsolid⟩
  · rfl

/-- The search for a name that stands alone finds the one that the components name, in a text that
does not end with a blank. -/
theorem search_bare {p : String} {parts : List String} (hparts : IsSlashFree (p :: parts))
    (hlast : ∀ c ∈ (p.toList ++ following parts).getLast?, Text.isBlank c = false) :
    (bare.search? (p.toList ++ following parts)).map ofMatch =
      (standing? (p :: parts)).map dropEnding := by
  by_cases h : ∃ name, parts = [name] ∧ IsSolid p ∧ IsSolid name
  · obtain ⟨name, rfl, howner, hname⟩ := h
    rw [search_bare_of_solid hparts howner hname, standing?, if_pos ⟨howner, hname⟩]
    rfl
  · have hsearch : bare.search? (p.toList ++ following parts) = none := by
      rw [← Option.not_isSome_iff_eq_none]
      exact fun hfound => h (solid_of_search_bare hparts hlast hfound)
    rw [hsearch, standing?_eq_none h]
    rfl

/-! ## Targets -/

theorem isSlashFree_partsOf (target : String) : IsSlashFree (partsOf target) :=
  fun _ hp => Text.notMem_of_mem_cut hp

/-- A target is its components, the first and those behind slashes. -/
theorem exists_parts (target : String) : ∃ p parts, partsOf target = p :: parts ∧
    (Text.trimmed target).toList = p.toList ++ following parts := by
  obtain ⟨p, parts, hparts⟩ :=
    List.exists_cons_of_ne_nil (Text.cut_ne_nil (Text.trimmed target) '/')
  refine ⟨p, parts, hparts, ?_⟩
  have hjoin := Text.join_cut (Text.trimmed target) '/'
  rw [hparts] at hjoin
  rw [← hjoin]
  exact Text.toList_join_cons '/' p parts

/-- What ends with the ending is an address without it. -/
theorem search_ended {s : List Char} (h : address.search? s = none) :
    (addressed ++ lit ".git").search? s = none := by
  rw [← Option.not_isSome_iff_eq_none] at h ⊢
  intro hfound
  obtain ⟨a, w, r, rfl, u, v, rfl, hu, _⟩ := occursIn_iff.mp hfound
  refine h (occursIn_iff.mpr ⟨a, u, v ++ r, by simp, u, [], by simp, hu, .inr rfl⟩)

/-- **Reading a target.** The repository is the one that the components of the target name, without
the ending of its name. -/
theorem parse_eq (target : String) : parse target =
    match written? (partsOf target) with
    | some r => .ok (dropEnding r)
    | none => .error (.invalidRepository (Text.trimmed target)) := by
  obtain ⟨p, parts, hparts, htext⟩ := exists_parts target
  have hfree : IsSlashFree (p :: parts) := hparts ▸ isSlashFree_partsOf target
  have haddress := searchFrom_address hfree 0 none
  have hbare := search_bare hfree fun c hc => by
    rw [← htext, Text.trimmed, String.toList_ofList] at hc
    exact (Text.trims_strip target.toList).last c hc
  change (address.search? _).map ofMatch = _ at haddress
  rw [← htext] at haddress hbare
  unfold parse written?
  rw [hparts]
  simp only [forms, List.findSome?_cons, List.findSome?_nil]
  cases hfound : address.search? (Text.trimmed target).toList with
  | some m =>
    rw [hfound] at haddress
    obtain ⟨r, hr, hdrop⟩ := Option.map_eq_some_iff.mp haddress.symm
    rw [hr]
    exact congrArg Except.ok hdrop.symm
  | none =>
    rw [hfound] at haddress
    rw [Option.map_eq_none_iff.mp haddress.symm, search_ended hfound]
    cases hsearch : bare.search? (Text.trimmed target).toList with
    | some m =>
      rw [hsearch] at hbare
      obtain ⟨r, hr, hdrop⟩ := Option.map_eq_some_iff.mp hbare.symm
      rw [hr]
      exact congrArg Except.ok hdrop.symm
    | none =>
      rw [hsearch] at hbare
      rw [Option.map_eq_none_iff.mp hbare.symm]
      rfl

end RepositoryName

end Assay
