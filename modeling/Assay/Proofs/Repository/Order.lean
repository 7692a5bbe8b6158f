import Mathlib.Data.List.Perm.Basic
import Mathlib.Data.String.Basic
import Assay.Json.Printer
import Assay.Proofs.Json.Kept
import Assay.Proofs.Repository.Reached
import Assay.Proofs.Sorted
import Assay.Proofs.Web.Request

/-!
# The order of listings

A server may list the items of a directory in any order.

* `ListsTree`: every directory of a repository is listed, and the paths of all items are distinct;
* `Reordered`: two servers list the same items, each in an order of its own;
* `IsExact`: a set has each file that can be downloaded where it belongs, and nothing else;
  `IsExact.unique`: there is one such set;
* `fetch_order_iff`: this set is fetched, in whatever order items are listed, exactly if the walk
  stops at none of them.
-/

namespace Assay

open Web (Connection Response)

namespace RepositoryName

open Configuration (excludedBy)

/-! ## Two servers -/

/-- The same items are listed in any order, or a listing fails in the same way. -/
inductive SameItems : Except Failure (List Json) → Except Failure (List Json) → Prop
  | listed {items items' : List Json} (h : items'.Perm items) : SameItems (.ok items) (.ok items')
  | failed (e : Failure) : SameItems (.error e) (.error e)

/-- The file of an item comes to the same from both servers. -/
def SameFile (c c' : Connection) (item : Json) : Prop :=
  ∀ url, item.field? "download_url" = some (.str url) →
    (c'.file url).outcome = (c.file url).outcome

/-- The second server differs from the first in the order in which it lists items: it says the same
about the repository, and the files of some items come to the same. -/
structure Reordered (r : RepositoryName) (c c' : Connection) (xs : List (Nat × Json)) : Prop where
  document : (c'.document r.documentAddress none).outcome =
    (c.document r.documentAddress none).outcome
  listing : ∀ path branch, SameItems (list c r path branch).outcome (list c' r path branch).outcome
  file : ∀ x ∈ xs, SameFile c c' x.2

/-- Every directory of a repository is listed, and all items have paths of their own. -/
structure ListsTree (c : Connection) (r : RepositoryName) (patterns : List String) (branch : Json)
    (items : List Json) : Prop where
  rooted : ∃ b, (branchOf c r).outcome = .ok b ∧ (root c r b).outcome = .ok (branch, items)
  listed : ∀ x ∈ reached c r branch patterns maxNesting items, IsListed c r branch patterns x.2
  distinct : (pathsOf (reached c r branch patterns maxNesting items)).Nodup

section

variable {c c' : Connection} {r : RepositoryName} {branch : Json} {patterns : List String}
  {limit : Int} {config : Configuration} {item : Json} {depth : Nat} {xs xs' : List (Nat × Json)}

theorem SameItems.refl (x : Except Failure (List Json)) : SameItems x x := by
  cases x with
  | ok items => exact .listed (.refl items)
  | error e => exact .failed e

theorem SameItems.symm {x y : Except Failure (List Json)} (h : SameItems x y) : SameItems y x := by
  cases h with
  | listed h => exact .listed h.symm
  | failed e => exact .failed e

theorem SameFile.symm (h : SameFile c c' item) : SameFile c' c item :=
  fun url hurl => (h url hurl).symm

theorem Reordered.symm (h : Reordered r c c' xs) (hperm : xs'.Perm xs) : Reordered r c' c xs' where
  document := h.document.symm
  listing path branch := (h.listing path branch).symm
  file x hx := (h.file x (hperm.mem_iff.mp hx)).symm

theorem Reordered.list_ok (h : Reordered r c c' xs) {path : String} {items : List Json}
    (hlist : (list c r path branch).outcome = .ok items) :
    ∃ items', (list c' r path branch).outcome = .ok items' ∧ items'.Perm items := by
  have hsame := h.listing path branch
  rw [hlist] at hsame
  generalize (list c' r path branch).outcome = outcome at hsame
  cases hsame with
  | listed hperm => exact ⟨_, rfl, hperm⟩

theorem Reordered.list_error (h : Reordered r c c' xs) {path : String} {e : Failure}
    (hlist : (list c r path branch).outcome = .error e) :
    (list c' r path branch).outcome = .error e := by
  have hsame := h.listing path branch
  rw [hlist] at hsame
  generalize (list c' r path branch).outcome = outcome at hsame
  cases hsame with
  | failed => rfl

/-! ## Roots -/

theorem Reordered.branchOf (h : Reordered r c c' xs) :
    (branchOf c' r).outcome = (branchOf c r).outcome := by
  unfold RepositoryName.branchOf
  cases r.branch with
  | some b => rfl
  | none =>
    unfold serverBranch
    apply Trail.recover_congr
    simp only [Trail.outcome_bind, h.document]

/-- A root is listed on the branch asked for, or on the one that is tried instead. -/
theorem root_ok_iff {b : Json} {items : List Json} :
    (root c r b).outcome = .ok (branch, items) ↔
      (branch = b ∧ (list c r "" b).outcome = .ok items) ∨
        b.asString? = some defaultBranch ∧ branch = .str fallbackBranch ∧
          (list c r "" b).outcome = .error .repositoryNotFound ∧
          (list c r "" (.str fallbackBranch)).outcome = .ok items := by
  unfold root
  rw [Trail.recover_eq_ok]
  simp only [Trail.outcome_bind, Trail.outcome_pure, bind_eq_ok, bind_eq_error, Except.ok.injEq,
    Prod.mk.injEq, reduceCtorEq, and_false, exists_false, or_false]
  refine or_congr ⟨?_, ?_⟩ ⟨?_, ?_⟩
  · rintro ⟨items, hlist, rfl, rfl⟩
    exact ⟨rfl, hlist⟩
  · rintro ⟨rfl, hlist⟩
    exact ⟨items, hlist, rfl, rfl⟩
  · rintro ⟨e, u, hlist, hu, hok⟩
    split at hu
    · split at hu
      · rename_i hdefault
        obtain rfl := Option.some.inj hu
        simp only [Trail.outcome_bind, Trail.outcome_info, ok_bind, Trail.outcome_pure, bind_eq_ok,
          Except.ok.injEq, Prod.mk.injEq] at hok
        obtain ⟨items, hfallback, rfl, rfl⟩ := hok
        exact ⟨by simpa using hdefault, rfl, hlist, hfallback⟩
      · cases hu
    · cases hu
  · rintro ⟨hdefault, rfl, hlist, hfallback⟩
    refine ⟨_, _, hlist, if_pos (by simpa using hdefault), ?_⟩
    simp [hfallback]

theorem Reordered.root (h : Reordered r c c' xs) {b : Json} {items : List Json}
    (hroot : (root c r b).outcome = .ok (branch, items)) :
    ∃ items', (root c' r b).outcome = .ok (branch, items') ∧ items'.Perm items := by
  rcases root_ok_iff.mp hroot with ⟨rfl, hlist⟩ | ⟨hdefault, rfl, hmissing, hlist⟩
  · obtain ⟨items', hlist', hperm⟩ := h.list_ok hlist
    exact ⟨items', root_ok_iff.mpr (.inl ⟨rfl, hlist'⟩), hperm⟩
  · obtain ⟨items', hlist', hperm⟩ := h.list_ok hlist
    exact ⟨items', root_ok_iff.mpr (.inr ⟨hdefault, rfl, h.list_error hmissing, hlist'⟩), hperm⟩

/-! ## Walks -/

theorem Reordered.isListed (h : Reordered r c c' xs) (hlisted : IsListed c r branch patterns item) :
    IsListed c' r branch patterns item := by
  intro path hopens
  obtain ⟨items, hlist⟩ := hlisted path hopens
  obtain ⟨items', hlist', _⟩ := h.list_ok hlist
  exact ⟨items', hlist'⟩

theorem Reordered.itemsBelow_perm (h : Reordered r c c' xs) (item : Json) :
    (itemsBelow c' r branch patterns item).Perm (itemsBelow c r branch patterns item) := by
  unfold itemsBelow
  split
  · exact .refl _
  · rename_i path _
    cases hlist : (list c r path branch).outcome with
    | ok items =>
      obtain ⟨items', hlist', hperm⟩ := h.list_ok hlist
      simpa only [hlist'] using hperm
    | error e => simp only [h.list_error hlist, List.Perm.refl]

theorem Reordered.reachedFrom_perm (h : Reordered r c c' xs) (item : Json) :
    (reachedFrom c' r branch patterns depth item).Perm
      (reachedFrom c r branch patterns depth item) := by
  induction depth generalizing item with
  | zero => exact .refl _
  | succ depth ih =>
    rw [reachedFrom, reachedFrom]
    exact (List.Perm.flatMap (h.itemsBelow_perm item) fun i _ => ih i).cons _

theorem Reordered.reached_perm (h : Reordered r c c' xs) {items items' : List Json}
    (hperm : items'.Perm items) :
    (reached c' r branch patterns depth items').Perm (reached c r branch patterns depth items) :=
  List.Perm.flatMap hperm fun i _ => h.reachedFrom_perm i

theorem Reordered.listsTree (h : Reordered r c c' xs) {items : List Json}
    (htree : ListsTree c r patterns branch items) :
    ∃ items', ListsTree c' r patterns branch items' ∧
      (reached c' r branch patterns maxNesting items').Perm
        (reached c r branch patterns maxNesting items) := by
  obtain ⟨b, hbranch, hroot⟩ := htree.rooted
  obtain ⟨items', hroot', hperm⟩ := h.root hroot
  have hreached : (reached c' r branch patterns maxNesting items').Perm
      (reached c r branch patterns maxNesting items) := h.reached_perm hperm
  refine ⟨items', ⟨⟨b, ?_, hroot'⟩, ?_, ?_⟩, hreached⟩
  · rw [h.branchOf, hbranch]
  · exact fun x hx => h.isListed (htree.listed x (hreached.mem_iff.mp hx))
  · exact ((hreached.map _).nodup_iff).mpr htree.distinct

/-! ## Items of both -/

theorem SameFile.content (h : SameFile c c' item) (path : String) :
    (content c' item path).outcome = (content c item path).outcome := by
  unfold RepositoryName.content
  apply Trail.recover_congr
  cases hurl : item.field? "download_url" with
  | none => rfl
  | some v =>
    cases v with
    | str url => simp only [download, Trail.outcome_bind, h url hurl]
    | _ => rfl

theorem SameFile.fileOf (h : SameFile c c' item) :
    (fileOf c' config ((excludedBy patterns).map .str) item).outcome =
      (fileOf c config ((excludedBy patterns).map .str) item).outcome := by
  cases hplace : (pathOf item).asString? with
  | none => rw [fileOf_error_of_path hplace, fileOf_error_of_path hplace]
  | some path =>
    have hpath : pathOf item = .str path := Json.asString_eq_some.mp hplace
    rw [fileOf_eq hpath, fileOf_eq hpath, h.content]

theorem SameFile.isUnit_iff (h : SameFile c c' item) {u : SourceUnit} :
    IsUnit c' patterns limit item u ↔ IsUnit c patterns limit item u := by
  have htext : Downloads c' item u.content ↔ Downloads c item u.content := by
    refine exists₂_congr fun url response => and_congr_right fun hurl => ?_
    rw [h url hurl]
  constructor
  · rintro ⟨hkind, hplace, htaken, hlanguage, hsmall, hdownload, hsize⟩
    exact ⟨hkind, hplace, htaken, hlanguage, hsmall, htext.mp hdownload, hsize⟩
  · rintro ⟨hkind, hplace, htaken, hlanguage, hsmall, hdownload, hsize⟩
    exact ⟨hkind, hplace, htaken, hlanguage, hsmall, htext.mpr hdownload, hsize⟩

theorem SameFile.stops (h : SameFile c c' item) (hsettles : config.Settles patterns limit)
    (hstops : Stops c patterns limit (depth, item)) : Stops c' patterns limit (depth, item) := by
  obtain ⟨e, he, hfault⟩ := hstops
  refine ⟨e, he, ?_⟩
  cases hfault with
  | shape hshape => exact .shape hshape
  | name hkind hname => exact .name hkind hname
  | path hkind hshown hplace => exact .path hkind hshown hplace
  | nesting hopens => exact .nesting hopens
  | file hkind hfile =>
    refine .file hkind ((fileOf_error_iff hsettles he).mp ?_)
    rw [h.fileOf]
    exact (fileOf_error_iff hsettles he).mpr hfile

/-! ## Sets -/

/-- A set has each file of some items that can be downloaded, and the paths of the files that are
not analysed, all of them once and in the order of their paths. -/
structure IsExact (c : Connection) (patterns : List String) (limit : Int) (r : RepositoryName)
    (branch : Json) (xs : List (Nat × Json)) (s : SourceSet) : Prop where
  mem_units : ∀ u, u ∈ s.units ↔ ∃ x ∈ xs, IsUnit c patterns limit x.2 u
  mem_others : ∀ p, p ∈ s.otherPaths ↔ ∃ x ∈ xs, IsOther patterns x.2 p
  units_sorted : s.units.Pairwise fun u v => u.path < v.path
  others_sorted : s.otherPaths.Pairwise (· < ·)
  origin : s.origin = r.slug ++ "@" ++ branch.plain

/-- There is one such set, in whatever order items are listed. -/
theorem IsExact.unique (h : Reordered r c c' xs) (hperm : xs'.Perm xs) {s s' : SourceSet}
    (hs : IsExact c patterns limit r branch xs s)
    (hs' : IsExact c' patterns limit r branch xs' s') : s = s' := by
  have hunits : s.units = s'.units := by
    apply eq_of_pairwise_lt SourceUnit.path hs.units_sorted hs'.units_sorted
    intro u
    rw [hs.mem_units, hs'.mem_units]
    simp only [hperm.mem_iff]
    exact exists_congr fun x => and_congr_right fun hx => (h.file x hx).isUnit_iff.symm
  have hothers : s.otherPaths = s'.otherPaths := by
    apply eq_of_pairwise_lt id hs.others_sorted hs'.others_sorted
    intro p
    rw [hs.mem_others, hs'.mem_others]
    simp only [hperm.mem_iff]
  cases s
  cases s'
  simp only [SourceSet.mk.injEq]
  exact ⟨hunits, hothers, hs.origin.trans hs'.origin.symm⟩

theorem not_lt_iff (p q : String) : (!decide (q < p)) = true ↔ p ≤ q := by
  simp only [Bool.not_eq_true', decide_eq_false_iff_not, not_lt]

/-- What is found at some items with paths of their own, put in order, is exact. -/
theorem Gathers.isExact (h : config.Settles patterns limit) {s : SourceSet}
    (hs : Gathers c config ((excludedBy patterns).map .str) xs s)
    (hdistinct : (pathsOf xs).Nodup) :
    IsExact c patterns limit r branch xs (ordered r branch s) where
  mem_units u := by
    simp only [ordered, List.mem_mergeSort, hs.units, List.mem_flatMap, mem_foundAt_units h]
  mem_others p := by
    simp only [ordered, List.mem_mergeSort, hs.others, List.mem_flatMap, mem_foundAt_others h]
  units_sorted := pairwise_lt_mergeSort SourceUnit.path (fun u v => not_lt_iff u.path v.path)
    (hs.nodup_units h hdistinct)
  others_sorted := pairwise_lt_mergeSort id not_lt_iff (by simpa using hs.nodup_others h hdistinct)
  origin := rfl

/-! ## Fetches -/

section

variable {items : List Json} {target : String}

theorem fetch_isExact (h : config.Settles patterns limit) (hname : parse target = .ok r)
    (htree : ListsTree c r patterns branch items) {s : SourceSet}
    (hs : (fetch c config target).outcome = .ok s) :
    IsExact c patterns limit r branch (reached c r branch patterns maxNesting items) s := by
  obtain ⟨b, hbranch, hroot⟩ := htree.rooted
  rw [fetch_of_root h hname hbranch hroot] at hs
  obtain ⟨found, hfound, hs⟩ := bind_eq_ok.mp hs
  obtain rfl := Except.ok.inj hs
  exact (walk_gathers htree.listed hfound).isExact h htree.distinct

theorem fetch_tree_ends_iff (h : config.Settles patterns limit) (hname : parse target = .ok r)
    (htree : ListsTree c r patterns branch items) :
    (∃ s, (fetch c config target).outcome = .ok s) ↔
      ∀ x ∈ reached c r branch patterns maxNesting items, ¬ Stops c patterns limit x := by
  obtain ⟨b, hbranch, hroot⟩ := htree.rooted
  rw [fetch_of_root h hname hbranch hroot, ← walk_reached_ends_iff h htree.listed]
  simp only [bind_eq_ok]
  constructor
  · rintro ⟨s, found, hfound, _⟩
    exact ⟨found, hfound⟩
  · rintro ⟨found, hfound⟩
    exact ⟨_, found, hfound, rfl⟩

/-- What is fetched from one server is fetched from another that lists the same. -/
theorem Reordered.fetch_ok (h : config.Settles patterns limit) (hname : parse target = .ok r)
    (htree : ListsTree c r patterns branch items)
    (hreordered : Reordered r c c' (reached c r branch patterns maxNesting items)) {s : SourceSet}
    (hs : (fetch c config target).outcome = .ok s) : (fetch c' config target).outcome = .ok s := by
  obtain ⟨items', htree', hperm⟩ := hreordered.listsTree htree
  have hgoes := (fetch_tree_ends_iff h hname htree).mp ⟨s, hs⟩
  obtain ⟨s', hs'⟩ := (fetch_tree_ends_iff h hname htree').mpr fun x hx hstops =>
    have hx := hperm.mem_iff.mp hx
    hgoes x hx ((hreordered.file x hx).symm.stops h hstops)
  rw [hs', IsExact.unique hreordered hperm (fetch_isExact h hname htree hs)
    (fetch_isExact h hname htree' hs')]

/-- **Fetching a tree.** In whatever order items are listed, the same set is fetched: it has each
file that can be downloaded, once. It is fetched exactly if the walk stops at no item; a file
that cannot be downloaded is passed over, unless its download fails in a way that stops the walk. -/
theorem fetch_order_iff (h : config.Settles patterns limit) (hname : parse target = .ok r)
    (htree : ListsTree c r patterns branch items)
    (hreordered : Reordered r c c' (reached c r branch patterns maxNesting items)) :
    (∀ s, (fetch c config target).outcome = .ok s ↔ (fetch c' config target).outcome = .ok s) ∧
      (∀ s, (fetch c config target).outcome = .ok s →
        IsExact c patterns limit r branch (reached c r branch patterns maxNesting items) s) ∧
      ((∃ s, (fetch c config target).outcome = .ok s) ↔
        ∀ x ∈ reached c r branch patterns maxNesting items, ¬ Stops c patterns limit x) := by
  refine ⟨fun s => ⟨hreordered.fetch_ok h hname htree, fun hs => ?_⟩,
    fun s => fetch_isExact h hname htree, fetch_tree_ends_iff h hname htree⟩
  obtain ⟨items', htree', hperm⟩ := hreordered.listsTree htree
  exact (hreordered.symm hperm).fetch_ok h hname htree' hs

end

end

/-! ## Two orders of one root -/

/-- An item that lists a file of one byte. -/
def fileItem (name : String) : Json :=
  .obj [("type", .str "file"), ("path", .str name), ("size", .int 1),
    ("download_url", .str ("https://f/" ++ name))]

/-- The page of a root that holds some files. -/
def rootPage (names : List String) : String :=
  (Json.arr (names.map fileItem)).dense

/-- A server of a repository whose root holds some files. -/
def rootServer (names : List String) (file : String → Web.Answer) : Connection where
  answer url :=
    if url = "https://api.github.com/repos/o/r/contents?ref=main" then
      .message ⟨200, [], rootPage names⟩
    else file url
  token := none

def plainFile (_ : String) : Web.Answer :=
  .message ⟨200, [], "x"⟩

/-- One of the files says that it is in an encoding that it is not in. -/
def tornFile (url : String) : Web.Answer :=
  if url = "https://f/b.js" then
    .message ⟨200, [("Content-Type", .str "text/plain; charset=utf-16")], "let b = 2;"⟩
  else plainFile url

/-- The items of a page are read back. -/
theorem itemsOf_rootPage (names : List String) :
    itemsOf ⟨200, [], (rootPage names).toUTF8.toList⟩ = .ok (names.map fileItem) := by
  have hkept : Json.Kept false Json.maxDepth (.arr (names.map fileItem)) := by
    refine .arr fun x hx => ?_
    obtain ⟨name, _, rfl⟩ := List.mem_map.mp hx
    exact .flat ["type", "path", "size", "download_url"] rfl (by decide) rfl
  have hread : Json.ofBytes (rootPage names).toUTF8.toList = .ok (.arr (names.map fileItem)) := by
    cases names with
    | nil => exact Json.ofBytes_render hkept rfl (by decide) (by decide)
    | cons name names => exact Json.ofBytes_render hkept rfl (by decide) (by decide)
  simp only [itemsOf, Response.json, hread, ok_bind]
  rfl

/-- What a server lists: the items of its root at the address of the root, and elsewhere what it lists
without them. -/
theorem rootServer_list (names : List String) (file : String → Web.Answer) (r : RepositoryName)
    (path : String) (branch : Json) :
    (list (rootServer names file) r path branch).outcome =
      (rootServer [] file).addressOf (r.listingAddress path) (branchQuery branch) >>= fun a =>
        if a.render = "https://api.github.com/repos/o/r/contents?ref=main" then
          if !a.isAbsolute then .error (.unknownScheme a.render) else .ok (names.map fileItem)
        else (rootServer [] file).answered a >>= itemsOf := by
  have haddress : (rootServer names file).addressOf = (rootServer [] file).addressOf :=
    Connection.addressOf_congr rfl
  simp only [list, Connection.document, Connection.get_outcome, Trail.outcome_bind,
    Trail.outcome_ofExcept, haddress]
  cases (rootServer [] file).addressOf (r.listingAddress path) (branchQuery branch) with
  | error e => rfl
  | ok a =>
    rw [ok_bind, ok_bind]
    by_cases hroot : a.render = "https://api.github.com/repos/o/r/contents?ref=main"
    · have hanswer : (rootServer names file).answer a.render =
          .message ⟨200, [], rootPage names⟩ := if_pos hroot
      have hreceive : Web.Message.receive ⟨200, [], rootPage names⟩ =
          .ok ⟨200, [], (rootPage names).toUTF8.toList⟩ := rfl
      rw [if_pos hroot, Connection.answered, hanswer]
      simp only [hreceive, ok_bind]
      cases a.isAbsolute with
      | false => rfl
      | true => exact itemsOf_rootPage names
    · have hanswer : (rootServer names file).answer a.render =
          (rootServer [] file).answer a.render := (if_neg hroot).trans (if_neg hroot).symm
      rw [if_neg hroot, Connection.answered_congr hanswer]

/-- Two orders of the same files. -/
theorem rootServer_sameItems {names names' : List String} (hperm : names'.Perm names)
    (file : String → Web.Answer) (r : RepositoryName) (path : String) (branch : Json) :
    SameItems (list (rootServer names file) r path branch).outcome
      (list (rootServer names' file) r path branch).outcome := by
  rw [rootServer_list, rootServer_list]
  cases (rootServer [] file).addressOf (r.listingAddress path) (branchQuery branch) with
  | error e => exact .failed e
  | ok a =>
    rw [ok_bind, ok_bind]
    split
    · split
      · exact .failed _
      · exact .listed (hperm.map _)
    · exact .refl _

theorem rootServer_reordered : Reordered ⟨"o", "r", some "main"⟩
    (rootServer ["a.js", "b.js"] plainFile) (rootServer ["b.js", "a.js"] plainFile)
    (["a.js", "b.js"].map fun name => (maxNesting, fileItem name)) where
  document := by decide +kernel
  listing := rootServer_sameItems (.swap _ _ _) _ _
  file x hx url hurl := by
    obtain ⟨name, hname, rfl⟩ := List.mem_map.mp hx
    obtain rfl := Json.str.inj (Option.some.inj hurl)
    simp only [List.mem_cons, List.not_mem_nil, or_false] at hname
    rcases hname with rfl | rfl <;> decide +kernel

theorem fileItem_not_opens (patterns : List String) (name path : String) :
    ¬ Opens patterns (fileItem name) path := by
  intro hopens
  have hword : "file" = "dir" := Json.str.inj hopens.kind
  exact absurd hword (by decide)

theorem reached_files (c : Connection) (r : RepositoryName) (branch : Json)
    (patterns : List String) (depth : Nat) (names : List String) :
    reached c r branch patterns depth (names.map fileItem) =
      names.map fun name => (depth, fileItem name) := by
  rw [reached, List.flatMap_map, List.flatMap_congr fun name _ =>
    reachedFrom_of_not_opens (fileItem_not_opens patterns name), ← List.map_eq_flatMap]

theorem rootServer_listsTree (file : String → Web.Answer) :
    ListsTree (rootServer ["a.js", "b.js"] file) ⟨"o", "r", some "main"⟩ [] (.str "main")
      (["a.js", "b.js"].map fileItem) where
  rooted := by
    refine ⟨.str "main", rfl, root_ok_iff.mpr (.inl ⟨rfl, ?_⟩)⟩
    rw [rootServer_list]
    rfl
  listed x hx := by
    rw [reached_files] at hx
    obtain ⟨name, _, rfl⟩ := List.mem_map.mp hx
    exact fun path hopens => absurd hopens (fileItem_not_opens [] name path)
  distinct := by
    have hpaths : pathsOf (["a.js", "b.js"].map fun name => (maxNesting, fileItem name)) =
        ["a.js", "b.js"].map Json.str := rfl
    rw [reached_files, hpaths]
    exact (by decide : ["a.js", "b.js"].Nodup).map fun _ _ h => Json.str.inj h

theorem parse_root :
    parse "https://github.com/o/r/tree/main" = .ok ⟨"o", "r", some "main"⟩ := by
  decide

theorem isUnit_fileItem {file : String → Web.Answer} {name : String}
    (hlanguage : Language.ofPath? name = some .javascript)
    (htaken : isExcluded name (excludedBy []) = false) (hne : name ≠ "")
    (hfile : ((rootServer ["a.js", "b.js"] file).file ("https://f/" ++ name)).outcome =
      .ok ⟨200, [], [0x78]⟩) :
    IsUnit (rootServer ["a.js", "b.js"] file) [] 1048576 (fileItem name)
      ⟨name, "x", .javascript, .bytes 1⟩ := by
  have htext : Response.text ⟨200, [], [0x78]⟩ = .ok "x" := by decide +kernel
  exact ⟨rfl, pathOf_eq rfl hne, htaken, hlanguage, ⟨_, rfl, by decide⟩,
    ⟨_, _, rfl, hfile, rfl, htext⟩, rfl⟩

theorem plainFile_isUnit {name : String} (hname : name ∈ ["a.js", "b.js"]) :
    IsUnit (rootServer ["a.js", "b.js"] plainFile) [] 1048576 (fileItem name)
      ⟨name, "x", .javascript, .bytes 1⟩ := by
  simp only [List.mem_cons, List.not_mem_nil, or_false] at hname
  rcases hname with rfl | rfl
  · exact isUnit_fileItem (by decide +kernel) (by decide +kernel) (by decide) (by decide +kernel)
  · exact isUnit_fileItem (by decide +kernel) (by decide +kernel) (by decide) (by decide +kernel)

theorem fetch_order_iff_swapped : ∃ s,
    (fetch (rootServer ["a.js", "b.js"] plainFile) {} "https://github.com/o/r/tree/main").outcome =
        .ok s ∧
      (fetch (rootServer ["b.js", "a.js"] plainFile) {}
        "https://github.com/o/r/tree/main").outcome = .ok s ∧
      ∀ name ∈ ["a.js", "b.js"], ⟨name, "x", .javascript, .bytes 1⟩ ∈ s.units := by
  have hsettles : Configuration.Settles {} [] 1048576 := ⟨rfl, rfl⟩
  have hreached := reached_files (rootServer ["a.js", "b.js"] plainFile) ⟨"o", "r", some "main"⟩
    (.str "main") [] maxNesting ["a.js", "b.js"]
  obtain ⟨hsame, hexact, hends⟩ := fetch_order_iff hsettles parse_root
    (rootServer_listsTree plainFile) (hreached ▸ rootServer_reordered)
  obtain ⟨s, hs⟩ := hends.mpr fun x hx => by
    rw [hreached] at hx
    obtain ⟨name, hname, rfl⟩ := List.mem_map.mp hx
    exact (plainFile_isUnit hname).not_stops hsettles
  refine ⟨s, hs, (hsame s).mp hs, fun name hname => ?_⟩
  rw [(hexact s hs).mem_units, hreached]
  exact ⟨_, List.mem_map_of_mem hname, plainFile_isUnit hname⟩

/-- A download that is in another encoding than it says takes the other file with it. -/
theorem torn_download_stops :
    ListsTree (rootServer ["a.js", "b.js"] tornFile) ⟨"o", "r", some "main"⟩ [] (.str "main")
        (["a.js", "b.js"].map fileItem) ∧
      IsUnit (rootServer ["a.js", "b.js"] tornFile) [] 1048576 (fileItem "a.js")
        ⟨"a.js", "x", .javascript, .bytes 1⟩ ∧
      ¬ ∃ s, (fetch (rootServer ["a.js", "b.js"] tornFile) {}
        "https://github.com/o/r/tree/main").outcome = .ok s := by
  refine ⟨rootServer_listsTree tornFile, ?_, fun hends => ?_⟩
  · exact isUnit_fileItem (by decide +kernel) (by decide +kernel) (by decide) (by decide +kernel)
  · have hgoes := (fetch_tree_ends_iff ⟨rfl, rfl⟩ parse_root (rootServer_listsTree tornFile)).mp
      hends
    rw [reached_files] at hgoes
    refine hgoes (maxNesting, fileItem "b.js") (by simp) ⟨.unreadableText (.unmarked 16), rfl, ?_⟩
    have htakes : Takes [] (fileItem "b.js") "b.js" := ⟨rfl, by decide +kernel, by decide +kernel⟩
    have hfault : FileFault (rootServer ["a.js", "b.js"] tornFile) (fileItem "b.js")
        (.unreadableText (.unmarked 16)) :=
      (fileFault_iff rfl).mpr ⟨_, rfl, by decide +kernel⟩
    exact .file rfl (.content htakes ⟨_, rfl, by decide +kernel⟩ hfault)

end RepositoryName

end Assay
