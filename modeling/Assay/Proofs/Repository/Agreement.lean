import Assay.Json.Printer
import Assay.Proofs.Json.Kept
import Assay.Proofs.Repository.Served
import Assay.Proofs.Selection.Below
import Assay.Proofs.Web.Request

/-!
# Checkouts and servers

Whether a project is gathered from a checkout or fetched from a server that serves the same tree,
the same files should be analysed and listed. Gathering looks at files only; a fetch does not open a
directory that is left out. So the two differ in the files that are not left out below directories
that are.

* `fetch_agrees_iff`: when they agree;
* `fetch_agrees_of_names`: they do where all exclusions are names.
-/

namespace Assay.RepositoryName

open Configuration (roleAt excludedBy bound)
open Web (Connection)

section

variable {c : Connection} {config : Configuration} {patterns : List String} {limit : Int}
  {t : FileTree} {place : List String} {r : RepositoryName} {root target branch : String}
  {files : List (List String × List UInt8)}

/-- Files of a tree have paths of their own. -/
theorem Walkable.join_inj (h : Walkable files) {f g : List String × List UInt8} (hf : f ∈ files)
    (hg : g ∈ files) (heq : Text.join "/" f.1 = Text.join "/" g.1) : f.1 = g.1 := by
  have hcut : ∀ e ∈ files, Text.cut (Text.join "/" e.1) '/' = e.1 := fun e he =>
    Text.cut_join (h.below e he) fun x hx => (h.named e he x hx).2
  rw [← hcut f hf, heq, hcut g hg]

/-- A gathered set and one of the files that are shown agree if all the files gathered are shown. -/
theorem agree_iff_shown (hwalk : Walkable files) {gathered fetched : SourceSet}
    (hgathered : ∀ k p, p ∈ gathered.paths k ↔ ∃ f ∈ files, roleAt patterns limit f = some k ∧
      p = Text.join "/" f.1)
    (hfetched : Holds patterns limit files [] fetched) :
    (∀ k p, p ∈ gathered.paths k ↔ p ∈ fetched.paths k) ↔
      ∀ f ∈ files, (roleAt patterns limit f).isSome → Shown patterns [] f.1 := by
  constructor
  · intro hsame f hf hrole
    obtain ⟨k, hk⟩ := Option.isSome_iff_exists.mp hrole
    have hp := (hsame k _).mp ((hgathered k _).mpr ⟨f, hf, hk, rfl⟩)
    obtain ⟨g, hg, _, hshown, _, heq⟩ := (hfetched k _).mp hp
    rwa [hwalk.join_inj hf hg heq]
  · intro hshown k p
    rw [hgathered k p, hfetched k p]
    constructor
    · rintro ⟨f, hf, hrole, rfl⟩
      have habove : IsAbove [] f.1 := ⟨List.nil_prefix, (hwalk.below f hf).symm⟩
      exact ⟨f, hf, habove, hshown f hf (by simp [hrole]), hrole, rfl⟩
    · rintro ⟨f, hf, _, _, hrole, hp⟩
      exact ⟨f, hf, hrole, hp⟩

/-- **When a fetch agrees with a checkout of the same tree.** What it finds is always among what is
gathered. It finds all of it exactly if there is room for all the directories that it opens, and no
file that is kept is below a directory that is left out as a whole. -/
theorem fetch_agrees_iff (h : config.Settles patterns limit)
    (hroot : t.entry root = .ok .directory) (hplace : t.resolve root = .ok place)
    (hwalk : Walkable (t.filesBelow place)) (hname : parse target = .ok r)
    (hserves : Serves c r branch (t.filesBelow place)) :
    ∃ gathered, (t.gather config root).outcome = .ok gathered ∧
      (∀ fetched, (fetch c config target).outcome = .ok fetched →
        ∀ k, fetched.paths k ⊆ gathered.paths k) ∧
      ((∃ fetched, (fetch c config target).outcome = .ok fetched ∧
          ∀ k p, p ∈ gathered.paths k ↔ p ∈ fetched.paths k) ↔
        (∀ d, IsReached (t.filesBelow place) patterns [] d → d.length ≤ maxNesting) ∧
          ∀ f ∈ t.filesBelow place, (roleAt patterns limit f).isSome → Shown patterns [] f.1) := by
  obtain ⟨gathered, hgather, hgathered⟩ := FileTree.gather_paths h hroot hplace
  refine ⟨gathered, hgather, ?_⟩
  by_cases hroom : ∀ d, IsReached (t.filesBelow place) patterns [] d → d.length ≤ maxNesting
  · obtain ⟨fetched, hfetch, hfetched⟩ := fetch_paths h hwalk hname hserves hroom
    simp only [hfetch, Except.ok.injEq, forall_eq', exists_eq_left']
    refine ⟨fun k p hp => ?_, ?_⟩
    · obtain ⟨f, hf, _, _, hrole, hpath⟩ := (hfetched k p).mp hp
      exact (hgathered k p).mpr ⟨f, hf, hrole, hpath⟩
    · rw [agree_iff_shown hwalk hgathered hfetched]
      exact (and_iff_right hroom).symm
  · obtain ⟨d, hd⟩ := Classical.not_forall.mp hroom
    obtain ⟨hreached, hlong⟩ := Classical.not_imp.mp hd
    have hfetch := fetch_cramped h hwalk hname hserves hreached (Nat.not_le.mp hlong)
    simp [hfetch, hroom]

/-- Names leave no directory out whose files are not left out themselves. -/
theorem shown_of_names (hnames : ∀ e ∈ patterns, isName e = true)
    (hgenerated : ∀ d, IsDirectory files d → isGenerated (Text.join "/" d) = false)
    {f : List String × List UInt8} (hf : f ∈ files) (hrole : (roleAt patterns limit f).isSome) :
    Shown patterns [] f.1 := by
  intro d hne hd
  have hall : ∀ e ∈ excludedBy patterns, isName e = true := by
    intro e he
    rcases List.mem_append.mp he with he | he
    · exact isName_alwaysExcluded e he
    · exact hnames e (List.mem_filter.mp he).1
  have hopen : isExcluded (Text.join "/" f.1) (excludedBy patterns) = false := by
    cases hexcluded : isExcluded (Text.join "/" f.1) (excludedBy patterns) with
    | false => rfl
    | true => simp [roleAt, roleOf, hexcluded] at hrole
  obtain ⟨x, rest, heq⟩ := hd.exists_eq
  have hjoin : Text.join "/" f.1 = Text.join "/" d ++ "/" ++ Text.join "/" (x :: rest) := by
    rw [heq, Text.join, String.intercalate_append_of_ne_nil hne.2.symm (by simp)]
    rfl
  cases hexcluded : isExcluded (Text.join "/" d) (excludedBy patterns) with
  | false => rfl
  | true =>
    have hbelow := isExcluded_below hall (hgenerated d ⟨f, hf, hd⟩) hexcluded
      (Text.join "/" (x :: rest))
    rw [← hjoin, hopen] at hbelow
    cases hbelow

/-- A fetch agrees with a checkout where all exclusions are names, no directory is called like a
generated file and there is room. -/
theorem fetch_agrees_of_names (h : config.Settles patterns limit)
    (hnames : ∀ e ∈ patterns, isName e = true)
    (hroot : t.entry root = .ok .directory) (hplace : t.resolve root = .ok place)
    (hwalk : Walkable (t.filesBelow place))
    (hgenerated : ∀ d, IsDirectory (t.filesBelow place) d → isGenerated (Text.join "/" d) = false)
    (hroom : ∀ d, IsReached (t.filesBelow place) patterns [] d → d.length ≤ maxNesting)
    (hname : parse target = .ok r) (hserves : Serves c r branch (t.filesBelow place)) :
    ∃ gathered fetched, (t.gather config root).outcome = .ok gathered ∧
      (fetch c config target).outcome = .ok fetched ∧
      ∀ k p, p ∈ gathered.paths k ↔ p ∈ fetched.paths k := by
  obtain ⟨gathered, hgather, hgathered⟩ := FileTree.gather_paths h hroot hplace
  obtain ⟨fetched, hfetch, hfetched⟩ := fetch_paths h hwalk hname hserves hroom
  refine ⟨gathered, fetched, hgather, hfetch, ?_⟩
  exact (agree_iff_shown hwalk hgathered hfetched).mpr fun f hf =>
    shown_of_names hnames hgenerated hf

end

/-! ## A directory that is left out as a whole -/

/-- A tree with one file, two directories down. -/
def nestedTree : FileTree :=
  ⟨[(["src", "generated", "api.ts"], .file [0x78])]⟩

/-- A listing of one directory. -/
def directoryListing (name path : String) : Json :=
  .arr [.obj [("type", .str "dir"), ("name", .str name), ("path", .str path)]]

/-- The listing of the file. -/
def fileListing : Json :=
  .arr [.obj [("type", .str "file"), ("path", .str "src/generated/api.ts"), ("size", .int 1),
    ("download_url", .str "https://raw.githubusercontent.com/o/r/main/src/generated/api.ts")]]

/-- A server of the tree. -/
def nestedServer : Connection where
  answer url :=
    match pages.lookup url with
    | some text => .message ⟨200, [], text⟩
    | none => .lost "unknown"
  token := none
where
  pages : List (String × String) := [
    ("https://api.github.com/repos/o/r/contents?ref=main", (directoryListing "src" "src").dense),
    ("https://api.github.com/repos/o/r/contents/src?ref=main",
      (directoryListing "generated" "src/generated").dense),
    ("https://api.github.com/repos/o/r/contents/src/generated?ref=main", fileListing.dense),
    ("https://raw.githubusercontent.com/o/r/main/src/generated/api.ts", "x")]

theorem nestedTree_files :
    nestedTree.filesBelow [] = [(["src", "generated", "api.ts"], [0x78])] := by
  decide +kernel

theorem nestedTree_entry : nestedTree.entry "." = .ok .directory := by
  decide

theorem nestedTree_resolve : nestedTree.resolve "." = .ok [] := by
  decide

theorem parse_nested :
    parse "https://github.com/o/r/tree/main" = .ok ⟨"o", "r", some "main"⟩ := by
  decide

theorem walkable_nested : Walkable (nestedTree.filesBelow []) := by
  rw [nestedTree_files]
  constructor <;> decide

theorem nested_room {patterns : List String} :
    ∀ d, IsReached (nestedTree.filesBelow []) patterns [] d → d.length ≤ maxNesting := by
  intro d hd
  obtain ⟨f, hf, habove⟩ := hd.directory
  rw [nestedTree_files] at hf
  obtain rfl := List.mem_singleton.mp hf
  have hlt := habove.length_lt
  simp only [List.length_cons, List.length_nil] at hlt
  have hmost : 3 ≤ maxNesting := by decide
  omega

/-- The way to a file is listed where it is the only one. -/
theorem lists_directory {c : Connection} {d rest : List String} {x y : String} {bytes : List UInt8}
    {item : Json} (h : IsDirectoryItem (d ++ [x]) item) :
    Lists c [(d ++ x :: y :: rest, bytes)] d [item] where
  sound i hi := by
    obtain rfl := List.mem_singleton.mp hi
    exact .inr ⟨x, ⟨_, List.mem_singleton_self _, isAbove_append_cons d x y rest⟩, h⟩
  listed f hf z hz := by
    obtain rfl := List.mem_singleton.mp hf
    simp at hz
  opened z hz := by
    obtain ⟨f, hf, ⟨after, hafter⟩, _⟩ := hz
    obtain rfl := List.mem_singleton.mp hf
    obtain ⟨rfl, _⟩ : z = x ∧ after = y :: rest := by simpa using hafter
    exact ⟨item, List.mem_singleton_self item, h⟩

theorem lists_file {c : Connection} {d : List String} {x : String} {bytes : List UInt8}
    {item : Json} (h : IsFileItem c (d ++ [x], bytes) item) :
    Lists c [(d ++ [x], bytes)] d [item] where
  sound i hi := by
    obtain rfl := List.mem_singleton.mp hi
    exact .inl ⟨_, List.mem_singleton_self _, x, rfl, h⟩
  listed f hf z _ := by
    obtain rfl := List.mem_singleton.mp hf
    exact ⟨item, List.mem_singleton_self item, h⟩
  opened z hz := by
    obtain ⟨f, hf, habove⟩ := hz
    obtain rfl := List.mem_singleton.mp hf
    have hlt := habove.length_lt
    simp at hlt

theorem directoryListing_read (name path : String) :
    Json.ofBytes (directoryListing name path).dense.toUTF8.toList =
      .ok (directoryListing name path) := by
  have hkept : Json.Kept false Json.maxDepth (directoryListing name path) :=
    .arr (List.forall_mem_singleton.mpr (.flat ["type", "name", "path"] rfl (by decide) rfl))
  exact Json.ofBytes_render hkept rfl (by decide) (by decide)

theorem fileListing_read : Json.ofBytes fileListing.dense.toUTF8.toList = .ok fileListing := by
  have hkept : Json.Kept false Json.maxDepth fileListing :=
    .arr (List.forall_mem_singleton.mpr
      (.flat ["type", "path", "size", "download_url"] rfl (by decide) rfl))
  exact Json.ofBytes_render hkept rfl (by decide) (by decide)

theorem nestedServer_serves :
    Serves nestedServer ⟨"o", "r", some "main"⟩ "main" (nestedTree.filesBelow []) := by
  rw [nestedTree_files]
  have hdirectories : ∀ d, d = [] ∨ IsDirectory [(["src", "generated", "api.ts"], [0x78])] d →
      d = [] ∨ d = ["src"] ∨ d = ["src", "generated"] := by
    rintro d (rfl | ⟨f, hf, hstart, hne⟩)
    · exact .inl rfl
    · obtain rfl := List.mem_singleton.mp hf
      simp only [List.prefix_cons_iff, List.prefix_nil] at hstart
      grind
  refine ⟨.inl rfl, fun d hd => ?_⟩
  rcases hdirectories d hd with rfl | rfl | rfl
  · have hleads : nestedServer.LeadsTo "https://api.github.com/repos/o/r/contents"
        (branchQuery (.str "main")) "https://api.github.com/repos/o/r/contents?ref=main" := by
      decide
    exact ⟨_, _, Connection.get_of_leadsTo hleads rfl, rfl, directoryListing_read "src" "src",
      lists_directory (d := []) ⟨rfl, rfl, "src", rfl, rfl⟩⟩
  · have hleads : nestedServer.LeadsTo "https://api.github.com/repos/o/r/contents/src"
        (branchQuery (.str "main")) "https://api.github.com/repos/o/r/contents/src?ref=main" := by
      decide
    exact ⟨_, _, Connection.get_of_leadsTo hleads rfl, rfl,
      directoryListing_read "generated" "src/generated",
      lists_directory (d := ["src"]) ⟨rfl, rfl, "generated", rfl, rfl⟩⟩
  · have hleads : nestedServer.LeadsTo "https://api.github.com/repos/o/r/contents/src/generated"
        (branchQuery (.str "main"))
        "https://api.github.com/repos/o/r/contents/src/generated?ref=main" := by
      decide
    refine ⟨_, _, Connection.get_of_leadsTo hleads rfl, rfl, fileListing_read, ?_⟩
    exact lists_file (d := ["src", "generated"]) ⟨rfl, rfl, rfl, _, ⟨200, [], [0x78]⟩, "x", rfl,
      by decide +kernel, rfl, by decide +kernel, nofun⟩

/-- The settings that leave the directory of the file out as a whole. -/
def subtreeLeftOut : Configuration :=
  { excludePatterns := .seq [.str "src/generated"] }

theorem settles_subtreeLeftOut : subtreeLeftOut.Settles ["src/generated"] 1048576 :=
  ⟨rfl, rfl⟩

theorem roleAt_nested : roleAt ["src/generated"] 1048576 (["src", "generated", "api.ts"], [0x78]) =
    some .analysed := by
  decide +kernel

theorem not_shown_nested : ¬ Shown ["src/generated"] [] ["src", "generated", "api.ts"] := by
  intro hshown
  have hopen := hshown ["src", "generated"] (isAbove_append [] "src" ["generated"])
    (isAbove_append ["src", "generated"] "api.ts" [])
  have hexcluded : isExcluded (Text.join "/" ["src", "generated"]) (excludedBy ["src/generated"]) =
      true := by
    decide +kernel
  rw [hopen] at hexcluded
  cases hexcluded

theorem fetch_agrees_iff_nested : ∃ gathered,
    (nestedTree.gather subtreeLeftOut ".").outcome = .ok gathered ∧
      ¬ ∃ fetched,
        (fetch nestedServer subtreeLeftOut "https://github.com/o/r/tree/main").outcome =
          .ok fetched ∧
        ∀ k p, p ∈ gathered.paths k ↔ p ∈ fetched.paths k := by
  obtain ⟨gathered, hgather, _, hiff⟩ := fetch_agrees_iff settles_subtreeLeftOut
    nestedTree_entry nestedTree_resolve walkable_nested parse_nested nestedServer_serves
  refine ⟨gathered, hgather, fun hsame => ?_⟩
  refine not_shown_nested
    ((hiff.mp hsame).2 (["src", "generated", "api.ts"], [0x78]) ?_ ?_)
  · rw [nestedTree_files]
    exact List.mem_singleton_self _
  · rw [roleAt_nested]
    rfl

/-- A file below a directory that is left out as a whole is gathered and not fetched. -/
theorem gathered_not_fetched :
    Serves nestedServer ⟨"o", "r", some "main"⟩ "main" (nestedTree.filesBelow []) ∧
    ∃ gathered fetched, (nestedTree.gather subtreeLeftOut ".").outcome = .ok gathered ∧
      (fetch nestedServer subtreeLeftOut "https://github.com/o/r/tree/main").outcome =
        .ok fetched ∧
      "src/generated/api.ts" ∈ gathered.paths .analysed ∧
      "src/generated/api.ts" ∉ fetched.paths .analysed := by
  refine ⟨nestedServer_serves, ?_⟩
  obtain ⟨gathered, hgather, hgathered⟩ :=
    FileTree.gather_paths settles_subtreeLeftOut nestedTree_entry nestedTree_resolve
  obtain ⟨fetched, hfetch, hfetched⟩ :=
    fetch_paths settles_subtreeLeftOut walkable_nested parse_nested nestedServer_serves nested_room
  rw [nestedTree_files] at hgathered hfetched
  refine ⟨gathered, fetched, hgather, hfetch, ?_, fun hp => ?_⟩
  · exact (hgathered _ _).mpr ⟨_, List.mem_singleton_self _, roleAt_nested, rfl⟩
  · obtain ⟨f, hf, _, hshown, _⟩ := (hfetched _ _).mp hp
    obtain rfl := List.mem_singleton.mp hf
    exact not_shown_nested hshown

end Assay.RepositoryName
