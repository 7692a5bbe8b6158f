import Mathlib.Data.List.Nodup
import Assay.Proofs.Repository.Failures
import Assay.Proofs.Repository.Served

/-!
# What a walk comes to

A walk goes through the items of a listing and through those below every directory that it opens.

* `reached`: the items that it comes to, in that order, each with the depth that is left there;
* `Stops`: an item at which it stops; `walk_reached_ends_iff`: it ends exactly if there is none;
* `foundAt`, `Gathers`: what it finds at an item, and a set of what is found at several;
  `walk_gathers`: a walk that ends gathers what is found at the items that it comes to;
* `IsUnit`, `IsOther`: the files that are found at an item, told without the walk.
-/

namespace Assay

open Web (Connection Response)

namespace RepositoryName

open Configuration (excludedBy)

/-! ## Items that are reached -/

/-- The path under which an item is opened, if it is a directory that a walk opens. -/
def openedPath? (patterns : List String) (item : Json) : Option String :=
  match item.field "type", isHidden item, pathOf item with
  | .str "dir", .ok false, .str path =>
    if isExcluded path (excludedBy patterns) then none else some path
  | _, _, _ => none

theorem openedPath_eq_some_iff {patterns : List String} {item : Json} {path : String} :
    openedPath? patterns item = some path ↔ Opens patterns item path := by
  unfold openedPath?
  constructor
  · intro h
    split at h
    · rename_i hkind hshown hplace
      split at h
      · cases h
      · rename_i htaken
        obtain rfl := Option.some.inj h
        exact ⟨hkind, hshown, hplace, Bool.eq_false_iff.mpr htaken⟩
    · cases h
  · rintro ⟨hkind, hshown, hplace, htaken⟩
    simp [hkind, hshown, hplace, htaken]

theorem openedPath_eq_none_iff {patterns : List String} {item : Json} :
    openedPath? patterns item = none ↔ ∀ path, ¬ Opens patterns item path := by
  simp only [← openedPath_eq_some_iff]
  exact Option.eq_none_iff_forall_ne_some

section

variable (c : Connection) (r : RepositoryName) (branch : Json) (patterns : List String)

/-- What is listed in the directory that an item opens. -/
def itemsBelow (item : Json) : List Json :=
  match openedPath? patterns item with
  | none => []
  | some path =>
    match (list c r path branch).outcome with
    | .ok items => items
    | .error _ => []

/-- The items that a walk comes to from one of them, each with the depth that is left there. -/
def reachedFrom : (depth : Nat) → Json → List (Nat × Json)
  | 0, item => [(0, item)]
  | depth + 1, item =>
    (depth + 1, item) :: (itemsBelow c r branch patterns item).flatMap (reachedFrom depth)

/-- The items that a walk comes to. -/
def reached (depth : Nat) (items : List Json) : List (Nat × Json) :=
  items.flatMap (reachedFrom c r branch patterns depth)

/-- An item opens no directory whose listing fails. -/
def IsListed (item : Json) : Prop :=
  ∀ path, Opens patterns item path → ∃ items, (list c r path branch).outcome = .ok items

end

section

variable {c : Connection} {r : RepositoryName} {branch : Json} {patterns : List String}
  {limit : Int} {config : Configuration} {item : Json} {depth : Nat}

theorem itemsBelow_of_opens {path : String} {items : List Json} (hopens : Opens patterns item path)
    (hlist : (list c r path branch).outcome = .ok items) :
    itemsBelow c r branch patterns item = items := by
  rw [itemsBelow, openedPath_eq_some_iff.mpr hopens]
  simp only [hlist]

theorem mem_reachedFrom_self : (depth, item) ∈ reachedFrom c r branch patterns depth item := by
  cases depth <;> exact List.mem_cons_self

theorem reachedFrom_of_not_opens (h : ∀ path, ¬ Opens patterns item path) :
    reachedFrom c r branch patterns depth item = [(depth, item)] := by
  cases depth with
  | zero => rfl
  | succ depth => rw [reachedFrom, itemsBelow, openedPath_eq_none_iff.mpr h, List.flatMap_nil]

theorem reachedFrom_of_opens {path : String} {items : List Json} (hopens : Opens patterns item path)
    (hlist : (list c r path branch).outcome = .ok items) :
    reachedFrom c r branch patterns (depth + 1) item =
      (depth + 1, item) :: reached c r branch patterns depth items := by
  rw [reachedFrom, itemsBelow_of_opens hopens hlist, reached]

theorem walkItem_of_listed {path : String} {items : List Json} (hopens : Opens patterns item path)
    (hlist : (list c r path branch).outcome = .ok items) :
    (walkItem c config ((excludedBy patterns).map .str) r branch (depth + 1) item).outcome =
      (walk c config ((excludedBy patterns).map .str) r branch depth items).outcome := by
  rw [walkItem_of_opens hopens]
  simp only [hlist, ok_bind]

/-! ## Walks that end -/

theorem skipped_of_content {e : Failure} {path : String} {u : Trail (Option String)}
    (hu : (match e with
      | .missingField _ => content.skipped path e
      | e => if e.isFetch then content.skipped path e else none) = some u) :
    u.outcome = .ok none := by
  split at hu
  · exact skipped_ok hu
  · split at hu
    · exact skipped_ok hu
    · cases hu

theorem content_error_isFetch {path : String} {e : Failure}
    (h : (content c item path).outcome = .error e) : e.isFetch = false := by
  unfold content at h
  obtain ⟨e', _, ⟨hnone, rfl⟩ | ⟨u, hu, hfails⟩⟩ := Trail.recover_eq_error.mp h
  · split at hnone
    · cases hnone
    · split at hnone
      · cases hnone
      · exact Bool.eq_false_iff.mpr ‹_›
  · rw [skipped_of_content hu] at hfails
    cases hfails

theorem unitSize_error_isFetch {size : Json} {text : String} {e : Failure}
    (h : unitSize size text = .error e) : e.isFetch = false := by
  have hmeasured (h : unitSize.measured text = .error e) : e.isFetch = false := by
    unfold unitSize.measured at h
    split at h
    · cases h
      rfl
    · cases h
  unfold unitSize at h
  split at h
  · split at h
    · exact hmeasured h
    · cases h
  · split at h
    · cases h
    · exact hmeasured h
  · cases h
  · exact hmeasured h

theorem fileOf_error_isFetch (h : config.Settles patterns limit) {e : Failure}
    (hfails : (fileOf c config ((excludedBy patterns).map .str) item).outcome = .error e) :
    e.isFetch = false := by
  cases hplace : (pathOf item).asString? with
  | none =>
    rw [fileOf_error_of_path hplace] at hfails
    cases hfails
    rfl
  | some path =>
    rw [fileOf_eq (Json.asString_eq_some.mp hplace)] at hfails
    split at hfails
    · cases hfails
    · split at hfails
      · cases hfails
      · rcases bind_eq_error.mp hfails with hsize | ⟨large, _, hfails⟩
        · rw [((isTooLarge_error_iff h).mp hsize).2]
          rfl
        · split at hfails
          · cases hfails
          · rcases bind_eq_error.mp hfails with hcontent | ⟨text, _, hfails⟩
            · exact content_error_isFetch hcontent
            · split at hfails
              · cases hfails
              · rcases bind_eq_error.mp hfails with hmeasure | ⟨size, _, hfails⟩
                · exact unitSize_error_isFetch hmeasure
                · cases hfails

/-- A walk stops at an item for what the item says, or for what its file is. -/
def Stops (c : Connection) (patterns : List String) (limit : Int) (x : Nat × Json) : Prop :=
  ∃ e, e.isFetch = false ∧ ItemFault c patterns limit x.1 x.2 e

theorem isHidden_error_isFetch {e : Failure} (h : isHidden item = .error e) :
    e.isFetch = false := by
  unfold isHidden at h
  split at h
  · cases h
  · cases h
    rfl

/-- What is reached from an item below is reached from the one above. -/
theorem mem_reachedFrom_of_opens {path : String} {items : List Json} {x : Nat × Json} {i : Json}
    (hopens : Opens patterns item path) (hlist : (list c r path branch).outcome = .ok items)
    (hi : i ∈ items) (hx : x ∈ reachedFrom c r branch patterns depth i) :
    x ∈ reachedFrom c r branch patterns (depth + 1) item := by
  rw [reachedFrom_of_opens hopens hlist]
  exact List.mem_cons_of_mem _ (List.mem_flatMap.mpr ⟨i, hi, hx⟩)

/-- A walk opens an item or reads its file; every other item it passes over, or stops there for what
the item says. -/
theorem walkItem_cases (c : Connection) (config : Configuration) (r : RepositoryName)
    (branch : Json) (patterns : List String) (depth : Nat) (item : Json) :
    (∃ d path, depth = d + 1 ∧ Opens patterns item path) ∨
      (item.field "type" = .str "file" ∧
        (walkItem c config ((excludedBy patterns).map .str) r branch depth item).outcome =
          (fileOf c config ((excludedBy patterns).map .str) item).outcome) ∨
      (item.field "type" ≠ .str "file" ∧
        ((walkItem c config ((excludedBy patterns).map .str) r branch depth item).outcome = .ok {} ∨
          ∃ e, e.isFetch = false ∧
            (walkItem c config ((excludedBy patterns).map .str) r branch depth item).outcome =
              .error e)) := by
  by_cases hfile : item.field "type" = .str "file"
  · exact .inr (.inl ⟨hfile, congrArg Trail.outcome (walkItem_of_file hfile)⟩)
  · by_cases hdirectory : item.field "type" = .str "dir"
    · rcases walkItem_directory_cases c config r branch patterns depth hdirectory with
        ⟨e, hname, hstopped⟩ | ⟨_, _, hstopped⟩ | hpassed | ⟨path, hopens⟩
      · exact .inr (.inr ⟨hfile, .inr ⟨e, isHidden_error_isFetch hname, hstopped⟩⟩)
      · exact .inr (.inr ⟨hfile, .inr ⟨_, rfl, hstopped⟩⟩)
      · exact .inr (.inr ⟨hfile, .inl hpassed⟩)
      · cases depth with
        | zero => exact .inr (.inr ⟨hfile, .inr ⟨.nestedTooDeep, rfl, walkItem_of_opens hopens⟩⟩)
        | succ d => exact .inl ⟨d, path, rfl, hopens⟩
    · refine .inr (.inr ⟨hfile, ?_⟩)
      rcases walkItem_of_other hdirectory hfile with hshape | hpassed
      · rw [walkItem_of_shape hshape]
        exact .inr ⟨_, rfl, rfl⟩
      · rw [hpassed]
        exact .inl rfl

/-- An item below which there is nothing does not fail as a fetch does. -/
theorem walkItem_error_isFetch (h : config.Settles patterns limit)
    (hnone : ∀ d path, depth = d + 1 → ¬ Opens patterns item path) {e : Failure}
    (hfails : (walkItem c config ((excludedBy patterns).map .str) r branch depth item).outcome =
      .error e) : e.isFetch = false := by
  rcases walkItem_cases c config r branch patterns depth item with
    ⟨d, path, hdepth, hopens⟩ | ⟨_, hread⟩ | ⟨_, hpassed | ⟨e', he, hstopped⟩⟩
  · exact absurd hopens (hnone d path hdepth)
  · exact fileOf_error_isFetch h (hread.symm.trans hfails)
  · rw [hpassed] at hfails
    cases hfails
  · rw [hstopped] at hfails
    cases hfails
    exact he

theorem walk_ends_iff_items {items : List Json} {exclusions : List Yaml} :
    (∃ s, (walk c config exclusions r branch depth items).outcome = .ok s) ↔
      ∀ i ∈ items, ∃ s, (walkItem c config exclusions r branch depth i).outcome = .ok s := by
  constructor
  · rintro ⟨s, hs⟩
    exact walkItem_ok_of_walk hs
  · intro hitems
    obtain ⟨s, hs, _⟩ := walk_paths hitems
    exact ⟨s, hs⟩

/-- An item that ends does not stop the walk itself. -/
theorem not_stops_of_ends (h : config.Settles patterns limit)
    (hends : ∃ s, (walkItem c config ((excludedBy patterns).map .str) r branch depth item).outcome =
      .ok s) : ¬ Stops c patterns limit (depth, item) := by
  rintro ⟨e, he, hfault⟩
  obtain ⟨s, hs⟩ := hends
  rw [(walkItem_error_iff h he).mpr (.inl hfault)] at hs
  cases hs

/-- An item below which there is nothing ends unless it stops the walk itself. -/
theorem ends_of_not_stops (h : config.Settles patterns limit)
    (hnone : ∀ d path, depth = d + 1 → ¬ Opens patterns item path)
    (hgoes : ¬ Stops c patterns limit (depth, item)) :
    ∃ s, (walkItem c config ((excludedBy patterns).map .str) r branch depth item).outcome =
      .ok s := by
  cases houtcome : (walkItem c config ((excludedBy patterns).map .str) r branch depth
      item).outcome with
  | ok s => exact ⟨s, rfl⟩
  | error e =>
    have he : e.isFetch = false := walkItem_error_isFetch h hnone houtcome
    rcases (walkItem_error_iff h he).mp houtcome with hfault | ⟨d, path, hdepth, hopens, _⟩
    · exact absurd ⟨e, he, hfault⟩ hgoes
    · exact absurd hopens (hnone d path hdepth)

/-- A walk ends at an item exactly if it stops at nothing that it comes to from there. -/
theorem walkItem_ends_iff (h : config.Settles patterns limit)
    (hlisted : ∀ x ∈ reachedFrom c r branch patterns depth item,
      IsListed c r branch patterns x.2) :
    (∃ s, (walkItem c config ((excludedBy patterns).map .str) r branch depth item).outcome =
        .ok s) ↔
      ∀ x ∈ reachedFrom c r branch patterns depth item, ¬ Stops c patterns limit x := by
  induction depth generalizing item with
  | zero =>
    rw [reachedFrom, List.forall_mem_singleton]
    exact ⟨not_stops_of_ends h, ends_of_not_stops h nofun⟩
  | succ depth ih =>
    by_cases hopened : ∃ path, Opens patterns item path
    · obtain ⟨path, hopens⟩ := hopened
      obtain ⟨items, hlist⟩ := hlisted _ mem_reachedFrom_self path hopens
      have hitems : (∃ s, (walkItem c config ((excludedBy patterns).map .str) r branch (depth + 1)
            item).outcome = .ok s) ↔
          ∀ x ∈ reached c r branch patterns depth items, ¬ Stops c patterns limit x := by
        rw [walkItem_of_listed hopens hlist, walk_ends_iff_items, reached, List.forall_mem_flatMap]
        exact forall₂_congr fun i hi => ih fun x hx =>
          hlisted x (mem_reachedFrom_of_opens hopens hlist hi hx)
      rw [reachedFrom_of_opens hopens hlist, List.forall_mem_cons]
      exact ⟨fun hends => ⟨not_stops_of_ends h hends, hitems.mp hends⟩,
        fun hgoes => hitems.mpr hgoes.2⟩
    · have hnone : ∀ path, ¬ Opens patterns item path := not_exists.mp hopened
      rw [reachedFrom_of_not_opens hnone, List.forall_mem_singleton]
      exact ⟨not_stops_of_ends h, ends_of_not_stops h fun _ path _ => hnone path⟩

/-- **Walks that end.** Where every directory is listed, a walk ends exactly if it stops at nothing
that it comes to. -/
theorem walk_reached_ends_iff (h : config.Settles patterns limit) {items : List Json}
    (hlisted : ∀ x ∈ reached c r branch patterns depth items, IsListed c r branch patterns x.2) :
    (∃ s, (walk c config ((excludedBy patterns).map .str) r branch depth items).outcome =
        .ok s) ↔
      ∀ x ∈ reached c r branch patterns depth items, ¬ Stops c patterns limit x := by
  rw [walk_ends_iff_items, reached, List.forall_mem_flatMap]
  exact forall₂_congr fun i hi => walkItem_ends_iff h fun x hx =>
    hlisted x (List.mem_flatMap.mpr ⟨i, hi, hx⟩)

/-! ## What is found -/

/-- What a walk finds at an item, apart from what is below it. -/
def foundAt (c : Connection) (config : Configuration) (exclusions : List Yaml) (item : Json) :
    SourceSet :=
  match item.field "type" with
  | .str "file" =>
    match (fileOf c config exclusions item).outcome with
    | .ok s => s
    | .error _ => {}
  | _ => {}

theorem foundAt_of_file {exclusions : List Yaml} {s : SourceSet}
    (hkind : item.field "type" = .str "file")
    (hs : (fileOf c config exclusions item).outcome = .ok s) :
    foundAt c config exclusions item = s := by
  simp only [foundAt, hkind, hs]

theorem foundAt_of_not_file {exclusions : List Yaml} (hkind : item.field "type" ≠ .str "file") :
    foundAt c config exclusions item = {} := by
  unfold foundAt
  split
  · exact absurd ‹_› hkind
  · rfl

/-- A set is what is found at some items, in their order. -/
structure Gathers (c : Connection) (config : Configuration) (exclusions : List Yaml)
    (xs : List (Nat × Json)) (s : SourceSet) : Prop where
  units : s.units = xs.flatMap fun x => (foundAt c config exclusions x.2).units
  others : s.otherPaths = xs.flatMap fun x => (foundAt c config exclusions x.2).otherPaths

theorem gathers_self {exclusions : List Yaml} {x : Nat × Json} :
    Gathers c config exclusions [x] (foundAt c config exclusions x.2) :=
  ⟨(List.append_nil _).symm, (List.append_nil _).symm⟩

theorem Gathers.append {exclusions : List Yaml} {xs ys : List (Nat × Json)} {s t : SourceSet}
    (hs : Gathers c config exclusions xs s) (ht : Gathers c config exclusions ys t) :
    Gathers c config exclusions (xs ++ ys) (s.append t) := by
  refine ⟨?_, ?_⟩
  · rw [List.flatMap_append, ← hs.units, ← ht.units]
    rfl
  · rw [List.flatMap_append, ← hs.others, ← ht.others]
    rfl

/-- At an item below which there is nothing, a walk finds what is there. -/
theorem walkItem_eq_foundAt (hnone : ∀ d path, depth = d + 1 → ¬ Opens patterns item path)
    {s : SourceSet} (hs : (walkItem c config ((excludedBy patterns).map .str) r branch depth
      item).outcome = .ok s) : s = foundAt c config ((excludedBy patterns).map .str) item := by
  rcases walkItem_cases c config r branch patterns depth item with
    ⟨d, path, hdepth, hopens⟩ | ⟨hfile, hread⟩ | ⟨hfile, hpassed | ⟨e, _, hstopped⟩⟩
  · exact absurd hopens (hnone d path hdepth)
  · exact (foundAt_of_file hfile (hread.symm.trans hs)).symm
  · rw [foundAt_of_not_file hfile]
    exact Except.ok.inj (hs.symm.trans hpassed)
  · rw [hstopped] at hs
    cases hs

theorem walk_gathers_of_items {items : List Json} {exclusions : List Yaml}
    (hitems : ∀ i ∈ items, ∀ s, (walkItem c config exclusions r branch depth i).outcome = .ok s →
      Gathers c config exclusions (reachedFrom c r branch patterns depth i) s) {s : SourceSet}
    (hs : (walk c config exclusions r branch depth items).outcome = .ok s) :
    Gathers c config exclusions (reached c r branch patterns depth items) s := by
  induction items generalizing s with
  | nil =>
    rw [walk] at hs
    cases hs
    exact ⟨rfl, rfl⟩
  | cons i items ih =>
    rw [walk] at hs
    simp only [Trail.outcome_bind, bind_eq_ok, Trail.outcome_pure] at hs
    obtain ⟨first, hfirst, others, hothers, hs⟩ := hs
    obtain rfl := Except.ok.inj hs
    rw [List.forall_mem_cons] at hitems
    exact (hitems.1 first hfirst).append (ih hitems.2 hothers)

theorem walkItem_gathers
    (hlisted : ∀ x ∈ reachedFrom c r branch patterns depth item, IsListed c r branch patterns x.2)
    {s : SourceSet} (hs : (walkItem c config ((excludedBy patterns).map .str) r branch depth
      item).outcome = .ok s) :
    Gathers c config ((excludedBy patterns).map .str) (reachedFrom c r branch patterns depth item)
      s := by
  induction depth generalizing item s with
  | zero =>
    have hnone : ∀ d path, 0 = d + 1 → ¬ Opens patterns item path := nofun
    rw [walkItem_eq_foundAt hnone hs]
    exact gathers_self (x := (0, item))
  | succ depth ih =>
    by_cases hopened : ∃ path, Opens patterns item path
    · obtain ⟨path, hopens⟩ := hopened
      obtain ⟨items, hlist⟩ := hlisted _ mem_reachedFrom_self path hopens
      rw [walkItem_of_listed hopens hlist] at hs
      have hbelow := walk_gathers_of_items (fun i hi s hs => ih (fun x hx =>
        hlisted x (mem_reachedFrom_of_opens hopens hlist hi hx)) hs) hs
      have hnothing : foundAt c config ((excludedBy patterns).map .str) item = {} :=
        foundAt_of_not_file (by simp [hopens.kind])
      rw [reachedFrom_of_opens hopens hlist]
      refine ⟨?_, ?_⟩
      · rw [List.flatMap_cons, hnothing, ← hbelow.units]
        rfl
      · rw [List.flatMap_cons, hnothing, ← hbelow.others]
        rfl
    · have hnone : ∀ path, ¬ Opens patterns item path := not_exists.mp hopened
      rw [walkItem_eq_foundAt (fun _ path _ => hnone path) hs, reachedFrom_of_not_opens hnone]
      exact gathers_self (x := (depth + 1, item))

/-- A walk that ends gathers what is found at the items that it comes to. -/
theorem walk_gathers {items : List Json}
    (hlisted : ∀ x ∈ reached c r branch patterns depth items, IsListed c r branch patterns x.2)
    {s : SourceSet} (hs : (walk c config ((excludedBy patterns).map .str) r branch depth
      items).outcome = .ok s) :
    Gathers c config ((excludedBy patterns).map .str) (reached c r branch patterns depth items)
      s :=
  walk_gathers_of_items (fun i hi _ => walkItem_gathers fun x hx =>
    hlisted x (List.mem_flatMap.mpr ⟨i, hi, hx⟩)) hs

/-! ## Units -/

/-- The file of an item can be downloaded, and this is its text. -/
def Downloads (c : Connection) (item : Json) (text : String) : Prop :=
  ∃ url response, item.field? "download_url" = some (.str url) ∧
    (c.file url).outcome = .ok response ∧ response.status = 200 ∧ response.text = .ok text

theorem download_ok_iff {url : String} {text : String} :
    (download c (.str url)).outcome = .ok text ↔
      ∃ response, (c.file url).outcome = .ok response ∧ response.status = 200 ∧
        response.text = .ok text := by
  simp only [download, Trail.outcome_bind, bind_eq_ok]
  refine exists_congr fun response => and_congr_right fun _ => ?_
  split
  · rename_i hstatus
    simp [hstatus]
  · rename_i hstatus
    refine iff_of_false (fun h => ?_) fun h => hstatus h.1
    cases h

/-- The text of an item is that of its download. -/
theorem content_ok_iff {path text : String} :
    (content c item path).outcome = .ok (some text) ↔ Downloads c item text := by
  have hasked : (content c item path).outcome = .ok (some text) ↔
      ∃ v, item.field? "download_url" = some v ∧ (download c v).outcome = .ok text := by
    unfold content
    rw [Trail.recover_eq_ok, or_iff_left]
    · cases item.field? "download_url" with
      | none =>
        refine iff_of_false (fun h => ?_) (by simp)
        cases h
      | some v => simp [bind_eq_ok]
    · rintro ⟨e, u, _, hu, htext⟩
      rw [skipped_of_content hu] at htext
      cases htext
  rw [hasked]
  constructor
  · rintro ⟨v, hurl, hv⟩
    cases v with
    | str url =>
      obtain ⟨response, hresponse, hstatus, htext⟩ := download_ok_iff.mp hv
      exact ⟨url, response, hurl, hresponse, hstatus, htext⟩
    | _ => cases hv
  · rintro ⟨url, response, hurl, hresponse, hstatus, htext⟩
    exact ⟨.str url, hurl, download_ok_iff.mpr ⟨response, hresponse, hstatus, htext⟩⟩

/-- An item lists the file of a unit, which can be downloaded. -/
structure IsUnit (c : Connection) (patterns : List String) (limit : Int) (item : Json)
    (u : SourceUnit) : Prop where
  kind : item.field "type" = .str "file"
  place : pathOf item = .str u.path
  taken : isExcluded u.path (excludedBy patterns) = false
  language : Language.ofPath? u.path = some u.language
  small : IsSmall limit item
  text : Downloads c item u.content
  size : unitSize (sizeOf item) u.content = .ok u.size

/-- An item lists a file that is not analysed. -/
structure IsOther (patterns : List String) (item : Json) (path : String) : Prop where
  kind : item.field "type" = .str "file"
  place : pathOf item = .str path
  taken : isExcluded path (excludedBy patterns) = false
  silent : Language.ofPath? path = none

theorem fileOf_of_isUnit {u : SourceUnit} (h : config.Settles patterns limit)
    (hu : IsUnit c patterns limit item u) :
    (fileOf c config ((excludedBy patterns).map .str) item).outcome = .ok (.ofUnit u) := by
  rw [fileOf_eq hu.place, hu.taken, hu.language]
  simp only [Bool.false_eq_true, if_false, (isTooLarge_false_iff h).mpr hu.small, ok_bind,
    content_ok_iff.mpr hu.text, hu.size]
  rfl

/-- An item that lists a unit does not stop the walk. -/
theorem IsUnit.not_stops {u : SourceUnit} (hu : IsUnit c patterns limit item u)
    (h : config.Settles patterns limit) :
    ¬ Stops c patterns limit (depth, item) := by
  rintro ⟨e, he, hfault⟩
  have hdirectory : item.field "type" ≠ .str "dir" := by simp [hu.kind]
  cases hfault with
  | shape hshape =>
    have hkind := hu.kind
    cases item with
    | obj fields => exact hshape fields rfl
    | _ => cases hkind
  | name hkind _ => exact hdirectory hkind
  | path hkind _ _ => exact hdirectory hkind
  | nesting hopens => exact hdirectory hopens.kind
  | file _ hfile =>
    rw [← fileOf_error_iff h he, fileOf_of_isUnit h hu] at hfile
    cases hfile

theorem fileOf_of_isOther {path : String} (hpath : IsOther patterns item path) :
    (fileOf c config ((excludedBy patterns).map .str) item).outcome = .ok (.ofOther path) := by
  rw [fileOf_eq hpath.place, hpath.taken, hpath.silent]
  rfl

/-- The file of an item is nothing, a unit or a file that is not analysed. -/
theorem fileOf_ok_cases (h : config.Settles patterns limit) {s : SourceSet}
    (hkind : item.field "type" = .str "file")
    (hs : (fileOf c config ((excludedBy patterns).map .str) item).outcome = .ok s) :
    s = {} ∨ (∃ path, s = .ofOther path ∧ IsOther patterns item path) ∨
      ∃ u, s = .ofUnit u ∧ IsUnit c patterns limit item u := by
  cases hplace : (pathOf item).asString? with
  | none =>
    rw [fileOf_error_of_path hplace] at hs
    cases hs
  | some path =>
    have hpath : pathOf item = .str path := Json.asString_eq_some.mp hplace
    rw [fileOf_eq hpath] at hs
    split at hs
    · cases hs
      exact .inl rfl
    · rename_i htaken
      have htaken := Bool.eq_false_iff.mpr htaken
      split at hs
      · rename_i hsilent
        cases hs
        exact .inr (.inl ⟨path, rfl, hkind, hpath, htaken, hsilent⟩)
      · rename_i language hlanguage
        obtain ⟨large, hsmall, hs⟩ := bind_eq_ok.mp hs
        cases large with
        | true =>
          cases hs
          exact .inl rfl
        | false =>
          simp only [Bool.false_eq_true, if_false] at hs
          obtain ⟨text, hcontent, hs⟩ := bind_eq_ok.mp hs
          cases text with
          | none =>
            cases hs
            exact .inl rfl
          | some text =>
            obtain ⟨size, hsize, hs⟩ := bind_eq_ok.mp hs
            cases hs
            exact .inr (.inr ⟨_, rfl, hkind, hpath, htaken, hlanguage,
              (isTooLarge_false_iff h).mp hsmall, content_ok_iff.mp hcontent, hsize⟩)

/-- What a walk finds at an item is nothing, a unit or a file that is not analysed. -/
theorem foundAt_cases (h : config.Settles patterns limit) (c : Connection) (item : Json) :
    foundAt c config ((excludedBy patterns).map .str) item = {} ∨
      (∃ path, foundAt c config ((excludedBy patterns).map .str) item = .ofOther path ∧
        IsOther patterns item path) ∨
      ∃ u, foundAt c config ((excludedBy patterns).map .str) item = .ofUnit u ∧
        IsUnit c patterns limit item u := by
  by_cases hkind : item.field "type" = .str "file"
  · cases hfile : (fileOf c config ((excludedBy patterns).map .str) item).outcome with
    | ok s =>
      rw [foundAt_of_file hkind hfile]
      exact fileOf_ok_cases h hkind hfile
    | error e => exact .inl (by simp only [foundAt, hkind, hfile])
  · exact .inl (foundAt_of_not_file hkind)

theorem mem_foundAt_units (h : config.Settles patterns limit) {u : SourceUnit} :
    u ∈ (foundAt c config ((excludedBy patterns).map .str) item).units ↔
      IsUnit c patterns limit item u := by
  constructor
  · intro hu
    rcases foundAt_cases h c item with hfound | ⟨path, hfound, _⟩ | ⟨u', hfound, hunit⟩
    · rw [hfound] at hu
      cases hu
    · rw [hfound] at hu
      cases hu
    · rw [hfound] at hu
      obtain rfl := List.mem_singleton.mp hu
      exact hunit
  · intro hu
    rw [foundAt_of_file hu.kind (fileOf_of_isUnit h hu)]
    exact List.mem_singleton_self u

theorem mem_foundAt_others (h : config.Settles patterns limit) {path : String} :
    path ∈ (foundAt c config ((excludedBy patterns).map .str) item).otherPaths ↔
      IsOther patterns item path := by
  constructor
  · intro hp
    rcases foundAt_cases h c item with hfound | ⟨path', hfound, hother⟩ | ⟨u, hfound, _⟩
    · rw [hfound] at hp
      cases hp
    · rw [hfound] at hp
      obtain rfl := List.mem_singleton.mp hp
      exact hother
    · rw [hfound] at hp
      cases hp
  · intro hp
    rw [foundAt_of_file hp.kind (fileOf_of_isOther hp)]
    exact List.mem_singleton_self path

/-! ## Distinct paths -/

/-- The paths of items, as they are written. -/
def pathsOf (xs : List (Nat × Json)) : List Json :=
  xs.map fun x => pathOf x.2

theorem sublist_flatMap_map {α β : Type} {f : α → List β} {g : α → β}
    (h : ∀ x, (f x).Sublist [g x]) (xs : List α) : (xs.flatMap f).Sublist (xs.map g) := by
  induction xs with
  | nil => exact List.Sublist.refl []
  | cons x xs ih => exact (h x).append ih

/-- Units at items with distinct paths have distinct paths. -/
theorem Gathers.nodup_units (h : config.Settles patterns limit) {xs : List (Nat × Json)}
    {s : SourceSet} (hs : Gathers c config ((excludedBy patterns).map .str) xs s)
    (hdistinct : (pathsOf xs).Nodup) : (s.units.map (·.path)).Nodup := by
  have hsub : ((s.units.map (·.path)).map Json.str).Sublist (pathsOf xs) := by
    rw [hs.units, List.map_flatMap, List.map_flatMap]
    refine sublist_flatMap_map (fun x => ?_) xs
    rcases foundAt_cases h c x.2 with hfound | ⟨path, hfound, _⟩ | ⟨u, hfound, hunit⟩
    · rw [hfound]
      exact List.nil_sublist _
    · rw [hfound]
      exact List.nil_sublist _
    · rw [hfound, hunit.place]
      exact List.Sublist.refl _
  exact List.Nodup.of_map Json.str (hdistinct.sublist hsub)

theorem Gathers.nodup_others (h : config.Settles patterns limit) {xs : List (Nat × Json)}
    {s : SourceSet} (hs : Gathers c config ((excludedBy patterns).map .str) xs s)
    (hdistinct : (pathsOf xs).Nodup) : s.otherPaths.Nodup := by
  have hsub : (s.otherPaths.map Json.str).Sublist (pathsOf xs) := by
    rw [hs.others, List.map_flatMap]
    refine sublist_flatMap_map (fun x => ?_) xs
    rcases foundAt_cases h c x.2 with hfound | ⟨path, hfound, hother⟩ | ⟨u, hfound, _⟩
    · rw [hfound]
      exact List.nil_sublist _
    · rw [hfound, hother.place]
      exact List.Sublist.refl _
    · rw [hfound]
      exact List.nil_sublist _
  exact List.Nodup.of_map Json.str (hdistinct.sublist hsub)

end

end RepositoryName

end Assay
