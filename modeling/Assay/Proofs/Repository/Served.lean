import Assay.Proofs.Repository.Items
import Assay.Proofs.Trail
import Assay.Proofs.Tree.Gather

/-!
# Trees that are served

A server of repositories serves a tree if it lists every directory with all that is in it and hands
out every file.

* `IsAbove`, `IsDirectory`: the directories of a tree;
* `Shown`: no directory on the way to a file is left out; `IsReached`: nor is a directory itself, so
  that a walk opens it;
* `Serves`: a server that serves a tree;
* `walk_served`, `walk_cramped`: the walk finds the files that are shown, each in its role, or runs
  out of room for directories inside each other;
* `fetch_paths`, `fetch_cramped`: so does the fetch of a repository that is served.
-/

namespace Assay

open Web (Connection Response)

namespace RepositoryName

open Configuration (roleAt excludedBy bound)

/-! ## Directories -/

/-- A directory is above what lies below it. -/
def IsAbove (d place : List String) : Prop :=
  d <+: place ∧ d ≠ place

theorem IsAbove.length_lt {d place : List String} (h : IsAbove d place) :
    d.length < place.length := by
  obtain ⟨hstart, hne⟩ := h
  have hle := hstart.length_le
  have hlen : d.length ≠ place.length := fun he => hne (hstart.eq_of_length he)
  omega

theorem isAbove_append (d : List String) (c : String) (rest : List String) :
    IsAbove d (d ++ c :: rest) :=
  ⟨List.prefix_append d _, by simp⟩

theorem isAbove_append_cons (d : List String) (x y : String) (rest : List String) :
    IsAbove (d ++ [x]) (d ++ x :: y :: rest) := by
  rw [show d ++ x :: y :: rest = d ++ [x] ++ y :: rest by simp]
  exact isAbove_append (d ++ [x]) y rest

theorem IsAbove.trans {d e place : List String} (hd : IsAbove d e) (he : IsAbove e place) :
    IsAbove d place := by
  refine ⟨hd.1.trans he.1, fun heq => ?_⟩
  have hlt := hd.length_lt
  have hlt' := he.length_lt
  rw [heq] at hlt
  omega

/-- What is below a directory is in it or below one that is in it. -/
theorem IsAbove.exists_eq {d place : List String} (h : IsAbove d place) :
    ∃ c rest, place = d ++ c :: rest := by
  obtain ⟨⟨rest, rfl⟩, hne⟩ := h
  cases rest with
  | nil => simp at hne
  | cons c rest => exact ⟨c, rest, rfl⟩

/-- A directory of some files. -/
def IsDirectory (files : List (List String × List UInt8)) (d : List String) : Prop :=
  ∃ f ∈ files, IsAbove d f.1

/-- No directory between one and what lies below it is left out. -/
def Shown (patterns d place : List String) : Prop :=
  ∀ e, IsAbove d e → IsAbove e place → isExcluded (Text.join "/" e) (excludedBy patterns) = false

theorem shown_child (patterns d : List String) (c : String) : Shown patterns d (d ++ [c]) := by
  intro e hde hec
  have hlt := hde.length_lt
  have hlt' := hec.length_lt
  simp only [List.length_append, List.length_cons, List.length_nil] at hlt'
  omega

theorem shown_below {patterns d : List String} {c : String} {place : List String}
    (h : IsAbove (d ++ [c]) place) :
    Shown patterns d place ↔
      isExcluded (Text.join "/" (d ++ [c])) (excludedBy patterns) = false ∧
        Shown patterns (d ++ [c]) place := by
  constructor
  · intro hshown
    refine ⟨hshown _ (isAbove_append d c []) h, fun e he hplace => ?_⟩
    exact hshown e ((isAbove_append d c []).trans he) hplace
  · rintro ⟨hopen, hshown⟩ e hde hplace
    obtain ⟨x, rest, rfl⟩ := hde.exists_eq
    obtain ⟨⟨after, hafter⟩, _⟩ := h
    obtain ⟨⟨after', hafter'⟩, _⟩ := hplace
    -- Both lead to the same place, so their next components are the same.
    have hx : c = x := by
      have heq := hafter.trans hafter'.symm
      simp only [List.append_assoc, List.cons_append, List.nil_append,
        List.append_cancel_left_eq] at heq
      exact (List.cons.inj heq).1
    subst hx
    cases rest with
    | nil => exact hopen
    | cons y rest =>
      exact hshown _ (isAbove_append_cons d c y rest) ⟨⟨after', hafter'⟩, ‹_›⟩

/-- A directory that a walk from another one opens. -/
structure IsReached (files : List (List String × List UInt8)) (patterns d e : List String) :
    Prop where
  directory : IsDirectory files e
  above : IsAbove d e
  shown : Shown patterns d e
  taken : isExcluded (Text.join "/" e) (excludedBy patterns) = false

theorem isReached_child {files : List (List String × List UInt8)} {patterns d : List String}
    {x : String} (hdirectory : IsDirectory files (d ++ [x]))
    (hopen : isExcluded (Text.join "/" (d ++ [x])) (excludedBy patterns) = false) :
    IsReached files patterns d (d ++ [x]) :=
  ⟨hdirectory, isAbove_append d x [], shown_child patterns d x, hopen⟩

theorem isReached_below {files : List (List String × List UInt8)} {patterns d e : List String}
    {x : String} (habove : IsAbove (d ++ [x]) e) : IsReached files patterns d e ↔
      isExcluded (Text.join "/" (d ++ [x])) (excludedBy patterns) = false ∧
        IsReached files patterns (d ++ [x]) e := by
  constructor
  · rintro ⟨hdirectory, _, hshown, htaken⟩
    obtain ⟨hopen, hrest⟩ := (shown_below habove).mp hshown
    exact ⟨hopen, hdirectory, habove, hrest, htaken⟩
  · rintro ⟨hopen, hdirectory, _, hshown, htaken⟩
    exact ⟨hdirectory, (isAbove_append d x []).trans habove,
      (shown_below habove).mpr ⟨hopen, hshown⟩, htaken⟩

/-- The way to a directory that is opened leads through one that is. -/
theorem IsReached.exists_first {files : List (List String × List UInt8)}
    {patterns d e : List String} (h : IsReached files patterns d e) :
    ∃ x, IsDirectory files (d ++ [x]) ∧
      isExcluded (Text.join "/" (d ++ [x])) (excludedBy patterns) = false ∧
      (e = d ++ [x] ∨ IsReached files patterns (d ++ [x]) e) := by
  obtain ⟨x, rest, rfl⟩ := h.above.exists_eq
  cases rest with
  | nil => exact ⟨x, h.directory, h.taken, .inl rfl⟩
  | cons y rest =>
    have habove := isAbove_append_cons d x y rest
    obtain ⟨hopen, hreached⟩ := (isReached_below habove).mp h
    obtain ⟨f, hf, hbelow⟩ := h.directory
    exact ⟨x, ⟨f, hf, habove.trans hbelow⟩, hopen, .inr hreached⟩

/-! ## What a server says -/

/-- An item lists a file, whose text can be had; an empty file has an empty text. -/
structure IsFileItem (c : Connection) (f : List String × List UInt8) (item : Json) : Prop where
  kind : item.field "type" = .str "file"
  path : item.field "path" = .str (Text.join "/" f.1)
  size : item.field "size" = .int f.2.length
  text : ∃ url response text, item.field? "download_url" = some (.str url) ∧
    (c.file url).outcome = .ok response ∧ response.status = 200 ∧ response.text = .ok text ∧
    (f.2 = [] → text = "")

/-- An item lists a directory. -/
structure IsDirectoryItem (d : List String) (item : Json) : Prop where
  kind : item.field "type" = .str "dir"
  path : item.field "path" = .str (Text.join "/" d)
  name : ∃ name ∈ d.getLast?, item.field? "name" = some (.str name)

/-- The items list all that is in a directory. -/
structure Lists (c : Connection) (files : List (List String × List UInt8)) (d : List String)
    (items : List Json) : Prop where
  /-- Every item is about something in the directory. -/
  sound : ∀ item ∈ items, (∃ f ∈ files, ∃ x, f.1 = d ++ [x] ∧ IsFileItem c f item) ∨
    ∃ x, IsDirectory files (d ++ [x]) ∧ IsDirectoryItem (d ++ [x]) item
  listed : ∀ f ∈ files, ∀ x, f.1 = d ++ [x] → ∃ item ∈ items, IsFileItem c f item
  opened : ∀ x, IsDirectory files (d ++ [x]) →
    ∃ item ∈ items, IsDirectoryItem (d ++ [x]) item

/-- A server serves the files of a tree on a branch of a repository: the branch is named, or the
server says that it is the default one, and every directory is listed. -/
structure Serves (c : Connection) (r : RepositoryName) (branch : String)
    (files : List (List String × List UInt8)) : Prop where
  settled : r.branch = some branch ∨ r.branch = none ∧ branch ≠ "" ∧ ∃ response fields,
    (c.document r.documentAddress none).outcome = .ok response ∧ response.status = 200 ∧
    response.json = .ok (.obj fields) ∧ fields.lookup "default_branch" = some (.str branch)
  listings : ∀ d, d = [] ∨ IsDirectory files d → ∃ response items,
    (c.document (r.listingAddress (Text.join "/" d)) (branchQuery (.str branch))).outcome =
      .ok response ∧
    response.status = 200 ∧ response.json = .ok (.arr items) ∧ Lists c files d items

/-- The names of a tree: components are not empty and have no slashes, and directories are not
hidden. -/
structure Walkable (files : List (List String × List UInt8)) : Prop where
  below : ∀ f ∈ files, f.1 ≠ []
  named : ∀ f ∈ files, ∀ x ∈ f.1, x ≠ "" ∧ '/' ∉ x.toList
  shown : ∀ f ∈ files, ∀ x ∈ f.1.dropLast, x.toList.head? ≠ some '.'

/-! ## Items -/

section

variable {c : Connection} {config : Configuration} {patterns : List String} {limit : Int}
  {r : RepositoryName} {branch : Json}

theorem content_ok {f : List String × List UInt8} {item : Json} (h : IsFileItem c f item)
    (path : String) :
    ∃ text, (content c item path).outcome = .ok (some text) ∧ (f.2 = [] → text = "") := by
  obtain ⟨url, response, text, hurl, hresponse, hstatus, htext, hempty⟩ := h.text
  refine ⟨text, ?_, hempty⟩
  unfold content
  refine Trail.recover_ok ?_ _
  rw [hurl]
  simp only [download, Trail.outcome_bind, hresponse, ok_bind, hstatus, if_true,
    Trail.outcome_ofExcept, htext, Trail.outcome_pure]

theorem sizeOf_eq {item : Json} {n : Int} (h : item.field "size" = .int n) :
    sizeOf item = .int n := by
  unfold sizeOf
  by_cases hzero : n = 0 <;> simp [h, Json.isTruthy, hzero]

/-- A unit has the size that is listed, or that of its empty text. -/
theorem unitSize_ok (n : Nat) (text : String) (h : n = 0 → text = "") :
    ∃ size, unitSize (.int n) text = .ok size := by
  by_cases hzero : n = 0
  · subst hzero
    rw [h rfl]
    exact ⟨_, rfl⟩
  · have hint : (n : Int) ≠ 0 := by omega
    exact ⟨_, by rw [unitSize, if_neg hint]⟩

/-- The file of an item is found in its role. -/
theorem fileOf_places (h : config.Settles patterns limit) {f : List String × List UInt8}
    {item : Json} (hitem : IsFileItem c f item) (hne : Text.join "/" f.1 ≠ "") :
    ∃ s, (fileOf c config ((excludedBy patterns).map .str) item).outcome = .ok s ∧
      s.Places (roleAt patterns limit f) (Text.join "/" f.1) := by
  rw [fileOf_eq (pathOf_eq hitem.path hne)]
  unfold roleAt roleOf
  cases isExcluded (Text.join "/" f.1) (excludedBy patterns) with
  | true => exact ⟨{}, rfl, SourceSet.places_none _⟩
  | false =>
    cases Language.ofPath? (Text.join "/" f.1) with
    | none => exact ⟨_, rfl, SourceSet.places_ofOther _⟩
    | some l =>
      have hsize : isTooLarge config (sizeOf item) =
          .ok (decide (bound limit < (f.2.length : Int))) := by
        rw [sizeOf_eq hitem.size]
        exact h.isTooLarge_eq _
      simp only [Bool.false_eq_true, if_false, hsize, ok_bind]
      by_cases hlarge : bound limit < (f.2.length : Int)
      · simp only [decide_eq_true hlarge, if_true, if_pos hlarge]
        exact ⟨{}, rfl, SourceSet.places_none _⟩
      · obtain ⟨text, htext, hempty⟩ := content_ok hitem (Text.join "/" f.1)
        obtain ⟨size, hunit⟩ := unitSize_ok f.2.length text fun hzero =>
          hempty (List.length_eq_zero_iff.mp hzero)
        simp only [decide_eq_false hlarge, Bool.false_eq_true, if_false, if_neg hlarge, htext,
          ok_bind, sizeOf_eq hitem.size, hunit]
        exact ⟨_, rfl, SourceSet.places_ofUnit _⟩

/-! ## Walks -/

/-- A set has the files below a directory that are shown from there, each in its role. -/
def Holds (patterns : List String) (limit : Int) (files : List (List String × List UInt8))
    (d : List String) (s : SourceSet) : Prop :=
  ∀ k p, p ∈ s.paths k ↔ ∃ f ∈ files, IsAbove d f.1 ∧ Shown patterns d f.1 ∧
    roleAt patterns limit f = some k ∧ p = Text.join "/" f.1

theorem walkItem_directory {depth : Nat} {d : List String} {item : Json}
    (hitem : IsDirectoryItem d item) (hpath : Text.join "/" d ≠ "")
    (hshown : ∀ x ∈ d.getLast?, x.toList.head? ≠ some '.') :
    (walkItem c config ((excludedBy patterns).map .str) r branch depth item).outcome =
      if isExcluded (Text.join "/" d) (excludedBy patterns) then .ok {}
      else
        match depth with
        | 0 => .error .nestedTooDeep
        | depth + 1 => (list c r (Text.join "/" d) branch).outcome >>= fun items =>
          (walk c config ((excludedBy patterns).map .str) r branch depth items).outcome := by
  obtain ⟨name, hlast, hname⟩ := hitem.name
  have hhidden : isHidden item = .ok false := by
    rw [isHidden, hname, Option.getD_some]
    simpa using hshown name hlast
  rw [walkItem_of_directory hitem.kind, pathOf_eq hitem.path hpath,
    isLeftOut_ok_iff.mpr ⟨_, rfl, rfl⟩, hhidden]
  simp only [ok_bind, Bool.false_eq_true, if_false, Json.asString?, Option.getD_some]
  cases depth <;> rfl

/-- If the walk ends at every item, it finds what it finds at one of them. -/
theorem walk_paths {depth : Nat} {exclusions : List Yaml} {items : List Json}
    (h : ∀ item ∈ items, ∃ s, (walkItem c config exclusions r branch depth item).outcome = .ok s) :
    ∃ s, (walk c config exclusions r branch depth items).outcome = .ok s ∧
      ∀ k p, p ∈ s.paths k ↔ ∃ item ∈ items, ∃ s',
        (walkItem c config exclusions r branch depth item).outcome = .ok s' ∧ p ∈ s'.paths k := by
  induction items with
  | nil =>
    rw [walk]
    exact ⟨{}, rfl, by simp⟩
  | cons item items ih =>
    obtain ⟨first, hfirst⟩ := h item (by simp)
    obtain ⟨others, hothers, hpaths⟩ := ih fun i hi => h i (by simp [hi])
    refine ⟨first.append others, ?_, fun k p => ?_⟩
    · rw [walk]
      simp only [Trail.outcome_bind, hfirst, hothers, ok_bind, Trail.outcome_pure]
    · rw [SourceSet.paths_append, List.mem_append, hpaths]
      simp [hfirst]

/-- If every item ends or fails in one way, so does the walk. -/
theorem walk_ok_or {depth : Nat} {exclusions : List Yaml} {items : List Json} {e : Failure}
    (h : ∀ item ∈ items, (∃ s, (walkItem c config exclusions r branch depth item).outcome = .ok s) ∨
      (walkItem c config exclusions r branch depth item).outcome = .error e) :
    (∃ s, (walk c config exclusions r branch depth items).outcome = .ok s) ∨
      (walk c config exclusions r branch depth items).outcome = .error e := by
  induction items with
  | nil =>
    rw [walk]
    exact .inl ⟨{}, rfl⟩
  | cons item items ih =>
    rw [walk]
    simp only [Trail.outcome_bind, Trail.outcome_pure]
    rcases h item (by simp) with ⟨first, hfirst⟩ | hfails
    · rw [hfirst, ok_bind]
      rcases ih fun i hi => h i (by simp [hi]) with ⟨others, hothers⟩ | hfails
      · exact .inl ⟨first.append others, by rw [hothers, ok_bind]⟩
      · exact .inr (by rw [hfails]; rfl)
    · exact .inr (by rw [hfails]; rfl)

/-- A walk that ends does so at every item. -/
theorem walkItem_ok_of_walk {depth : Nat} {exclusions : List Yaml} {items : List Json}
    {s : SourceSet} (h : (walk c config exclusions r branch depth items).outcome = .ok s) :
    ∀ item ∈ items, ∃ s', (walkItem c config exclusions r branch depth item).outcome = .ok s' := by
  induction items generalizing s with
  | nil => simp
  | cons item items ih =>
    rw [walk] at h
    simp only [Trail.outcome_bind, bind_eq_ok] at h
    obtain ⟨first, hfirst, others, hothers, _⟩ := h
    exact List.forall_mem_cons.mpr ⟨⟨first, hfirst⟩, ih hothers⟩

theorem list_ok {path : String} {response : Response} {items : List Json}
    (hdocument : (c.document (r.listingAddress path) (branchQuery branch)).outcome = .ok response)
    (hstatus : response.status = 200) (hjson : response.json = .ok (.arr items)) :
    (list c r path branch).outcome = .ok items := by
  simp only [list, Trail.outcome_bind, hdocument, ok_bind, Trail.outcome_ofExcept, itemsOf, hstatus,
    hjson]
  rfl

end

/-! ## Trees that are served -/

section

variable {c : Connection} {config : Configuration} {patterns : List String} {limit : Int}
  {r : RepositoryName} {files : List (List String × List UInt8)}

theorem Walkable.join_ne_empty (h : Walkable files) {f : List String × List UInt8} (hf : f ∈ files)
    {place : List String} (hstart : place <+: f.1) (hne : place ≠ []) :
    Text.join "/" place ≠ "" := by
  cases place with
  | nil => exact absurd rfl hne
  | cons x rest =>
    have hx : x ≠ "" := (h.named f hf x (hstart.subset (by simp))).1
    intro hjoin
    cases rest with
    | nil => exact hx (by simpa [Text.join] using hjoin)
    | cons y rest => simp [Text.join, String.intercalate_cons_cons] at hjoin

theorem Walkable.directory_shown (h : Walkable files) {d : List String} {x : String}
    (hdirectory : IsDirectory files (d ++ [x])) : x.toList.head? ≠ some '.' := by
  obtain ⟨f, hf, habove⟩ := hdirectory
  obtain ⟨y, rest, heq⟩ := habove.exists_eq
  refine h.shown f hf x ?_
  rw [heq, List.dropLast_append_cons]
  simp

/-- A walk has what is in a directory if it has every file in it and what is below every directory
in it. -/
theorem walk_holds {branch : Json} {depth : Nat} {exclusions : List Yaml} {d : List String}
    {items : List Json} (hlists : Lists c files d items)
    (hfiles : ∀ f ∈ files, ∀ x, f.1 = d ++ [x] → ∀ item, IsFileItem c f item →
      ∃ s, (walkItem c config exclusions r branch depth item).outcome = .ok s ∧
        s.Places (roleAt patterns limit f) (Text.join "/" f.1))
    (hdirectories : ∀ x, IsDirectory files (d ++ [x]) → ∀ item, IsDirectoryItem (d ++ [x]) item →
      ∃ s, (walkItem c config exclusions r branch depth item).outcome = .ok s ∧
        ∀ k p, p ∈ s.paths k ↔ ∃ f ∈ files, IsAbove (d ++ [x]) f.1 ∧ Shown patterns d f.1 ∧
          roleAt patterns limit f = some k ∧ p = Text.join "/" f.1) :
    ∃ s, (walk c config exclusions r branch depth items).outcome = .ok s ∧
      Holds patterns limit files d s := by
  obtain ⟨s, hs, hpaths⟩ := walk_paths (c := c) fun item hitem => by
    rcases hlists.sound item hitem with ⟨f, hf, x, hx, h⟩ | ⟨x, hx, h⟩
    · obtain ⟨s, hs, _⟩ := hfiles f hf x hx item h
      exact ⟨s, hs⟩
    · obtain ⟨s, hs, _⟩ := hdirectories x hx item h
      exact ⟨s, hs⟩
  refine ⟨s, hs, fun k p => ?_⟩
  rw [hpaths]
  constructor
  · -- What is found is found at an item, and that is about something in the directory.
    rintro ⟨item, hitem, s', hs', hp⟩
    rcases hlists.sound item hitem with ⟨f, hf, x, hx, h⟩ | ⟨x, hx, h⟩
    · obtain ⟨s'', hs'', hplaces⟩ := hfiles f hf x hx item h
      obtain rfl := Except.ok.inj (hs'.symm.trans hs'')
      rw [hplaces k] at hp
      split at hp
      · rename_i hrole
        refine ⟨f, hf, ?_, ?_, hrole, by simpa using hp⟩
        · rw [hx]
          exact isAbove_append d x []
        · rw [hx]
          exact shown_child patterns d x
      · simp at hp
    · obtain ⟨s'', hs'', hbelow⟩ := hdirectories x hx item h
      obtain rfl := Except.ok.inj (hs'.symm.trans hs'')
      obtain ⟨f, hf, habove, hrest⟩ := (hbelow k p).mp hp
      exact ⟨f, hf, (isAbove_append d x []).trans habove, hrest⟩
  · -- A file is listed itself, or the first directory on the way to it is.
    rintro ⟨f, hf, habove, hshown, hrole, hp⟩
    obtain ⟨x, rest, heq⟩ := habove.exists_eq
    cases rest with
    | nil =>
      obtain ⟨item, hitem, h⟩ := hlists.listed f hf x heq
      obtain ⟨s', hs', hplaces⟩ := hfiles f hf x heq item h
      exact ⟨item, hitem, s', hs', by simp [hplaces k, hrole, hp]⟩
    | cons y rest =>
      have hbelow : IsAbove (d ++ [x]) f.1 := heq ▸ isAbove_append_cons d x y rest
      obtain ⟨item, hitem, h⟩ := hlists.opened x ⟨f, hf, hbelow⟩
      obtain ⟨s', hs', hpaths'⟩ := hdirectories x ⟨f, hf, hbelow⟩ item h
      exact ⟨item, hitem, s', hs', (hpaths' k p).mpr ⟨f, hf, hbelow, hshown, hrole, hp⟩⟩

theorem walkItem_file_places {branch : Json} {depth : Nat} (h : config.Settles patterns limit)
    (hwalk : Walkable files) {f : List String × List UInt8} (hf : f ∈ files) {item : Json}
    (hitem : IsFileItem c f item) :
    ∃ s, (walkItem c config ((excludedBy patterns).map .str) r branch depth item).outcome = .ok s ∧
      s.Places (roleAt patterns limit f) (Text.join "/" f.1) := by
  rw [walkItem_of_file hitem.kind]
  exact fileOf_places h hitem (hwalk.join_ne_empty hf (List.prefix_refl _) (hwalk.below f hf))

/-- What a walk finds at a directory of a tree that is served: nothing if it is left out, and
otherwise what the walk of its listing finds. -/
theorem walkItem_served {branch : Json} (hwalk : Walkable files) {depth : Nat} {d : List String}
    {x : String} {item : Json} (hdirectory : IsDirectory files (d ++ [x]))
    (hitem : IsDirectoryItem (d ++ [x]) item) :
    (walkItem c config ((excludedBy patterns).map .str) r branch depth item).outcome =
      if isExcluded (Text.join "/" (d ++ [x])) (excludedBy patterns) then .ok {}
      else
        match depth with
        | 0 => .error .nestedTooDeep
        | depth + 1 => (list c r (Text.join "/" (d ++ [x])) branch).outcome >>= fun items =>
          (walk c config ((excludedBy patterns).map .str) r branch depth items).outcome := by
  refine walkItem_directory hitem ?_ fun y hy => ?_
  · obtain ⟨f, hf, habove⟩ := hdirectory
    exact hwalk.join_ne_empty hf habove.1 (by simp)
  · obtain rfl : x = y := by simpa using hy
    exact hwalk.directory_shown hdirectory

/-- Nothing is found in a directory that is left out. -/
theorem not_mem_left_out {d : List String} {x : String}
    (hexcluded : isExcluded (Text.join "/" (d ++ [x])) (excludedBy patterns) = true) (k : Role)
    (p : String) : p ∈ ({} : SourceSet).paths k ↔ ∃ f ∈ files, IsAbove (d ++ [x]) f.1 ∧
      Shown patterns d f.1 ∧ roleAt patterns limit f = some k ∧ p = Text.join "/" f.1 := by
  refine iff_of_false (by simp) ?_
  rintro ⟨f, _, habove, hall, _⟩
  have hopen := ((shown_below habove).mp hall).1
  rw [hexcluded] at hopen
  cases hopen

/-- A walk has what is in a directory if it has what is below every directory in it that is not left
out. -/
theorem walk_holds_opened {branch : Json} (h : config.Settles patterns limit)
    (hwalk : Walkable files) {depth : Nat} {d : List String} {items : List Json}
    (hlists : Lists c files d items)
    (hopened : ∀ x, IsDirectory files (d ++ [x]) →
      isExcluded (Text.join "/" (d ++ [x])) (excludedBy patterns) = false →
      ∀ item, IsDirectoryItem (d ++ [x]) item →
        ∃ s, (walkItem c config ((excludedBy patterns).map .str) r branch depth item).outcome =
          .ok s ∧ Holds patterns limit files (d ++ [x]) s) :
    ∃ s, (walk c config ((excludedBy patterns).map .str) r branch depth items).outcome = .ok s ∧
      Holds patterns limit files d s := by
  refine walk_holds hlists (fun f hf _ _ item => walkItem_file_places h hwalk hf)
    fun x hdirectory item hitem => ?_
  cases hopen : isExcluded (Text.join "/" (d ++ [x])) (excludedBy patterns) with
  | true =>
    refine ⟨{}, ?_, not_mem_left_out hopen⟩
    rw [walkItem_served hwalk hdirectory hitem, if_pos hopen]
  | false =>
    obtain ⟨s, hs, hholds⟩ := hopened x hdirectory hopen item hitem
    refine ⟨s, hs, fun k p => ?_⟩
    rw [hholds k p]
    refine exists_congr fun f => and_congr_right fun _ => and_congr_right fun habove => ?_
    rw [shown_below habove]
    simp [hopen]

/-- The walk of a tree that is served finds the files that are shown, each in its role, if there is
room for all the directories that it opens. -/
theorem walk_served {branch : String} (h : config.Settles patterns limit) (hwalk : Walkable files)
    (hserves : Serves c r branch files) {depth : Nat} {d : List String} {items : List Json}
    (hlists : Lists c files d items)
    (hroom : ∀ e, IsReached files patterns d e → e.length ≤ d.length + depth) :
    ∃ s, (walk c config ((excludedBy patterns).map .str) r (.str branch) depth items).outcome =
      .ok s ∧ Holds patterns limit files d s := by
  induction depth generalizing d items with
  | zero =>
    refine walk_holds_opened h hwalk hlists fun x hdirectory hopen => ?_
    have hle := hroom _ (isReached_child hdirectory hopen)
    simp only [List.length_append, List.length_cons, List.length_nil] at hle
    omega
  | succ depth ih =>
    refine walk_holds_opened h hwalk hlists fun x hdirectory hopen item hitem => ?_
    obtain ⟨response, below, hdocument, hstatus, hjson, hbelow⟩ :=
      hserves.listings (d ++ [x]) (.inr hdirectory)
    obtain ⟨s, hs, hholds⟩ := ih hbelow fun e he => by
      have hle := hroom e ((isReached_below he.above).mpr ⟨hopen, he⟩)
      simp only [List.length_append, List.length_cons, List.length_nil]
      omega
    refine ⟨s, ?_, hholds⟩
    rw [walkItem_served hwalk hdirectory hitem, hopen]
    simp only [Bool.false_eq_true, if_false, list_ok hdocument hstatus hjson, ok_bind, hs]

/-- The walk of a tree that is served ends, or runs out of room. -/
theorem walk_ends {branch : String} (h : config.Settles patterns limit) (hwalk : Walkable files)
    (hserves : Serves c r branch files) {depth : Nat} {d : List String} {items : List Json}
    (hlists : Lists c files d items) :
    (∃ s, (walk c config ((excludedBy patterns).map .str) r (.str branch) depth items).outcome =
      .ok s) ∨
    (walk c config ((excludedBy patterns).map .str) r (.str branch) depth items).outcome =
      .error .nestedTooDeep := by
  induction depth generalizing d items with
  | zero =>
    refine walk_ok_or fun item hitem => ?_
    rcases hlists.sound item hitem with ⟨f, hf, x, hx, hitem⟩ | ⟨x, hx, hitem⟩
    · obtain ⟨s, hs, _⟩ := walkItem_file_places h hwalk hf hitem
      exact .inl ⟨s, hs⟩
    · rw [walkItem_served hwalk hx hitem]
      split
      · exact .inl ⟨{}, rfl⟩
      · exact .inr rfl
  | succ depth ih =>
    refine walk_ok_or fun item hitem => ?_
    rcases hlists.sound item hitem with ⟨f, hf, x, hx, hitem⟩ | ⟨x, hx, hitem⟩
    · obtain ⟨s, hs, _⟩ := walkItem_file_places h hwalk hf hitem
      exact .inl ⟨s, hs⟩
    · obtain ⟨response, below, hdocument, hstatus, hjson, hbelow⟩ :=
        hserves.listings (d ++ [x]) (.inr hx)
      rw [walkItem_served hwalk hx hitem]
      split
      · exact .inl ⟨{}, rfl⟩
      · simpa only [list_ok hdocument hstatus hjson, ok_bind] using ih hbelow

/-- The walk of a tree that is served runs out of room if there is none for a directory that it
opens. -/
theorem walk_cramped {branch : String} (h : config.Settles patterns limit)
    (hwalk : Walkable files) (hserves : Serves c r branch files) {depth : Nat} {d e : List String}
    {items : List Json} (hlists : Lists c files d items) (he : IsReached files patterns d e)
    (hlong : d.length + depth < e.length) :
    (walk c config ((excludedBy patterns).map .str) r (.str branch) depth items).outcome =
      .error .nestedTooDeep := by
  -- If the walk ended, it would have ended at every directory on the way.
  refine (walk_ends h hwalk hserves hlists).resolve_left ?_
  rintro ⟨s, hs⟩
  induction depth generalizing d items s with
  | zero =>
    obtain ⟨x, hdirectory, hopen, _⟩ := he.exists_first
    obtain ⟨item, hmem, hitem⟩ := hlists.opened x hdirectory
    obtain ⟨s', hs'⟩ := walkItem_ok_of_walk hs item hmem
    rw [walkItem_served hwalk hdirectory hitem, hopen] at hs'
    cases hs'
  | succ depth ih =>
    obtain ⟨x, hdirectory, hopen, hway⟩ := he.exists_first
    obtain ⟨item, hmem, hitem⟩ := hlists.opened x hdirectory
    obtain ⟨s', hs'⟩ := walkItem_ok_of_walk hs item hmem
    obtain ⟨response, below, hdocument, hstatus, hjson, hbelow⟩ :=
      hserves.listings (d ++ [x]) (.inr hdirectory)
    simp only [walkItem_served hwalk hdirectory hitem, hopen, Bool.false_eq_true, if_false,
      list_ok hdocument hstatus hjson, ok_bind] at hs'
    rcases hway with rfl | hreached
    · simp only [List.length_append, List.length_cons, List.length_nil] at hlong
      omega
    · refine ih hbelow hreached ?_ s' hs'
      simp only [List.length_append, List.length_cons, List.length_nil]
      omega

theorem branchOf_served {branch : String} (hserves : Serves c r branch files) :
    (branchOf c r).outcome = .ok (.str branch) := by
  unfold branchOf
  rcases hserves.settled with hnamed | ⟨hnone, hne, response, fields, hdocument, hstatus, hjson,
    hfield⟩
  · rw [hnamed]
    rfl
  · have htruthy : (Json.str branch).isTruthy = true := by simpa [Json.isTruthy] using hne
    have hbranch : (Json.obj fields).field "default_branch" = .str branch := by
      rw [Json.field, Json.field?, hfield, Option.getD_some]
    have hasked : namedBranch response = .ok (.str branch) := by
      simp [namedBranch, hstatus, hjson, hbranch, htruthy]
    rw [hnone]
    refine Trail.recover_ok ?_ _
    rw [Trail.outcome_bind, hdocument, ok_bind, Trail.outcome_ofExcept, hasked]

theorem root_served {branch : String} (hserves : Serves c r branch files) :
    ∃ items, (root c r (.str branch)).outcome = .ok (.str branch, items) ∧
      Lists c files [] items := by
  obtain ⟨response, items, hdocument, hstatus, hjson, hlists⟩ := hserves.listings [] (.inl rfl)
  refine ⟨items, ?_, hlists⟩
  unfold root
  refine Trail.recover_ok ?_ _
  have hlist := list_ok hdocument hstatus hjson
  rw [show Text.join "/" [] = "" from rfl] at hlist
  rw [Trail.outcome_bind, hlist]
  rfl

/-- What a walk found, put in order. -/
def ordered (r : RepositoryName) (branch : Json) (found : SourceSet) : SourceSet where
  units := found.units.mergeSort fun a b => !decide (b.path < a.path)
  otherPaths := found.otherPaths.mergeSort fun a b => !decide (b < a)
  origin := r.slug ++ "@" ++ branch.plain

/-- Once its root is listed, the fetch of a repository is the walk of its root, put in order. -/
theorem fetch_of_root {b branch : Json} {items : List Json} {target : String}
    (h : config.Settles patterns limit) (hname : parse target = .ok r)
    (hbranch : (branchOf c r).outcome = .ok b)
    (hroot : (root c r b).outcome = .ok (branch, items)) :
    (fetch c config target).outcome =
      (walk c config ((excludedBy patterns).map .str) r branch maxNesting items).outcome >>=
        fun found => .ok (ordered r branch found) := by
  simp only [fetch, fetchNamed, Trail.outcome_bind, Trail.outcome_ofExcept, hname, ok_bind,
    hbranch, hroot]
  cases items with
  | nil =>
    rw [walk]
    simp only [Trail.outcome_bind, Trail.outcome_ofExcept, h.exclusions_eq, ok_bind,
      Trail.outcome_info, Trail.outcome_pure]
    rfl
  | cons item items =>
    simp only [Trail.outcome_bind, Trail.outcome_ofExcept, h.exclusions_eq, ok_bind,
      Trail.outcome_info, Trail.outcome_pure]
    rfl

theorem fetch_served {branch target : String} (h : config.Settles patterns limit)
    (hname : parse target = .ok r) (hserves : Serves c r branch files) :
    ∃ items, Lists c files [] items ∧ (fetch c config target).outcome =
      (walk c config ((excludedBy patterns).map .str) r (.str branch) maxNesting items).outcome >>=
        fun found => .ok (ordered r (.str branch) found) := by
  obtain ⟨items, hroot, hlists⟩ := root_served hserves
  exact ⟨items, hlists, fetch_of_root h hname (branchOf_served hserves) hroot⟩

/-- The fetch of a repository that is served finds the files that are shown, each in its role, if
there is room for all the directories that it opens. -/
theorem fetch_paths {branch target : String} (h : config.Settles patterns limit)
    (hwalk : Walkable files) (hname : parse target = .ok r) (hserves : Serves c r branch files)
    (hroom : ∀ e, IsReached files patterns [] e → e.length ≤ maxNesting) :
    ∃ s, (fetch c config target).outcome = .ok s ∧ Holds patterns limit files [] s := by
  obtain ⟨items, hlists, hfetch⟩ := fetch_served h hname hserves
  obtain ⟨found, hfound, hholds⟩ := walk_served h hwalk hserves hlists fun e he => by
    simpa using hroom e he
  refine ⟨_, by rw [hfetch, hfound, ok_bind], fun k p => ?_⟩
  rw [← hholds k p]
  cases k <;> simp [SourceSet.paths, ordered]

theorem fetch_cramped {branch target : String} (h : config.Settles patterns limit)
    (hwalk : Walkable files) (hname : parse target = .ok r) (hserves : Serves c r branch files)
    {e : List String} (he : IsReached files patterns [] e) (hlong : maxNesting < e.length) :
    (fetch c config target).outcome = .error .nestedTooDeep := by
  obtain ⟨items, hlists, hfetch⟩ := fetch_served h hname hserves
  rw [hfetch, walk_cramped h hwalk hserves hlists he (by simpa using hlong)]
  rfl

end

end RepositoryName

end Assay
