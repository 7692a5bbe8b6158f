import Assay.Proofs.Repository.Items
import Assay.Proofs.Selection.Role
import Assay.Proofs.Trail
import Assay.Proofs.Web.Faults

/-!
# What a fetch does not expect

A fetch speaks of a repository that cannot be read in failures of its own. Some answers of a server
end it in another failure.

* `BranchFault`, `ListingFault`, `FileFault`: answers that are not read;
* `ItemFault`: items that are not read;
* `WalkFault`: what a walk comes upon first;
* `Mishap`: what a fetch comes upon;
* `fetch_error_iff`: a failure of a fetch that is not its own comes from a mishap, and every mishap
  ends the fetch in its failure.
-/

namespace Assay

open Web (Connection Response)

namespace RepositoryName

open Configuration (excludedBy bound)

/-! ## Answers -/

/-- The default branch cannot be told from the server's answer. -/
inductive BranchFault (c : Connection) (r : RepositoryName) : Failure → Prop
  | request {e : Failure} (h : (c.document r.documentAddress none).outcome = .error e) :
      BranchFault c r e
  | body {e : Failure} {response : Response}
      (hresponse : (c.document r.documentAddress none).outcome = .ok response)
      (hstatus : response.status = 200) (h : response.json = .error e) : BranchFault c r e
  /-- The document is no object. -/
  | shape {response : Response} {v : Json}
      (hresponse : (c.document r.documentAddress none).outcome = .ok response)
      (hstatus : response.status = 200) (hjson : response.json = .ok v)
      (h : ∀ fields, v ≠ .obj fields) : BranchFault c r (.missingMember v.kindName "get")

/-- A listing cannot be read from the server's answer. -/
inductive ListingFault (c : Connection) (r : RepositoryName) (path : String) (branch : Json) :
    Failure → Prop
  | request {e : Failure}
      (h : (c.document (r.listingAddress path) (branchQuery branch)).outcome = .error e) :
      ListingFault c r path branch e
  /-- The limit of requests is lifted at no time that can be told. -/
  | reset {e : Failure} {response : Response}
      (hresponse : (c.document (r.listingAddress path) (branchQuery branch)).outcome = .ok response)
      (hstatus : response.status = 403) (h : resetTime response = .error e) :
      ListingFault c r path branch e
  | body {e : Failure} {response : Response}
      (hresponse : (c.document (r.listingAddress path) (branchQuery branch)).outcome = .ok response)
      (hstatus : response.status = 200) (h : response.json = .error e) :
      ListingFault c r path branch e

/-- The text of the file of an item cannot be read from the server's answer. -/
inductive FileFault (c : Connection) (item : Json) : Failure → Prop
  /-- The address is no text. -/
  | address {v : Json} (hurl : item.field? "download_url" = some v) (h : v.asString? = none) :
      FileFault c item (.wrongType (.notAddress v.kindName v.shown))
  | request {url : String} {e : Failure} (hurl : item.field? "download_url" = some (.str url))
      (h : (c.file url).outcome = .error e) : FileFault c item e
  | text {url : String} {response : Response} {e : Failure}
      (hurl : item.field? "download_url" = some (.str url))
      (hresponse : (c.file url).outcome = .ok response) (hstatus : response.status = 200)
      (h : response.text = .error e) : FileFault c item e

section

variable {c : Connection} {r : RepositoryName} {e : Failure}

theorem namedBranch_error_iff {response : Response} : namedBranch response = .error e ↔
    response.status = 200 ∧ (response.json = .error e ∨
      ∃ v, response.json = .ok v ∧ (∀ fields, v ≠ .obj fields) ∧
        e = .missingMember v.kindName "get") := by
  unfold namedBranch
  by_cases hstatus : response.status = 200
  · cases hjson : response.json with
    | error e' => simp [hstatus]
    | ok v => cases v <;> simp [hstatus, eq_comm (a := e)]
  · simp [hstatus]

theorem serverBranch_error_iff (he : e.isFetch = false) :
    (serverBranch c r).outcome = .error e ↔ BranchFault c r e := by
  unfold serverBranch
  rw [Trail.recover_eq_error_of_ok, and_iff_left]
  · simp only [Trail.outcome_bind, Trail.outcome_ofExcept, bind_eq_error, namedBranch_error_iff]
    constructor
    · rintro (h | ⟨response, hresponse, hstatus, h | ⟨v, hv, hshape, rfl⟩⟩)
      · exact .request h
      · exact .body hresponse hstatus h
      · exact .shape hresponse hstatus hv hshape
    · rintro (h | ⟨hresponse, hstatus, h⟩ | ⟨hresponse, hstatus, hv, hshape⟩)
      · exact .inl h
      · exact .inr ⟨_, hresponse, hstatus, .inl h⟩
      · exact .inr ⟨_, hresponse, hstatus, .inr ⟨_, hv, hshape, rfl⟩⟩
  · split
    · cases he
    · rfl
  · intro e' u hu
    split at hu
    · obtain rfl := Option.some.inj hu
      exact ⟨_, rfl⟩
    · cases hu

theorem branchOf_error_iff (he : e.isFetch = false) :
    (branchOf c r).outcome = .error e ↔ r.branch = none ∧ BranchFault c r e := by
  unfold branchOf
  cases hbranch : r.branch with
  | none => simp [serverBranch_error_iff he]
  | some b => simp

theorem itemsOf_error_iff (he : e.isFetch = false) {response : Response} :
    itemsOf response = .error e ↔
      response.status = 403 ∧ resetTime response = .error e ∨
        response.status = 200 ∧ response.json = .error e := by
  unfold itemsOf
  by_cases hmissing : response.status = 404
  · rw [if_pos hmissing]
    refine iff_of_false (fun h => ?_) (by omega)
    cases h
    cases he
  · rw [if_neg hmissing]
    by_cases hlimit : response.status = 403
    · rw [if_pos hlimit, bind_eq_error]
      simp only [hlimit, true_and, (by decide : (403 : Int) ≠ 200), false_and, or_false]
      refine or_iff_left ?_
      rintro ⟨t, _, h⟩
      cases h
      cases he
    · rw [if_neg hlimit]
      by_cases hstatus : response.status = 200
      · rw [if_neg (by simp [hstatus]), bind_eq_error]
        simp only [hstatus, (by decide : (200 : Int) ≠ 403), false_and, false_or, true_and]
        refine or_iff_left ?_
        rintro ⟨v, _, h⟩
        cases v <;> cases h
      · rw [if_pos (by simpa using hstatus)]
        refine iff_of_false (fun h => ?_) (by omega)
        cases h
        cases he

theorem list_error_iff (he : e.isFetch = false) {path : String} {branch : Json} :
    (list c r path branch).outcome = .error e ↔ ListingFault c r path branch e := by
  simp only [list, Trail.outcome_bind, Trail.outcome_ofExcept, bind_eq_error, itemsOf_error_iff he]
  constructor
  · rintro (h | ⟨response, hresponse, ⟨hstatus, h⟩ | ⟨hstatus, h⟩⟩)
    · exact .request h
    · exact .reset hresponse hstatus h
    · exact .body hresponse hstatus h
  · rintro (h | ⟨hresponse, hstatus, h⟩ | ⟨hresponse, hstatus, h⟩)
    · exact .inl h
    · exact .inr ⟨_, hresponse, .inl ⟨hstatus, h⟩⟩
    · exact .inr ⟨_, hresponse, .inr ⟨hstatus, h⟩⟩

theorem download_error_iff (he : e.isFetch = false) {url : String} :
    (download c (.str url)).outcome = .error e ↔ (c.file url).outcome = .error e ∨
      ∃ response, (c.file url).outcome = .ok response ∧ response.status = 200 ∧
        response.text = .error e := by
  simp only [download, Trail.outcome_bind, bind_eq_error]
  refine or_congr Iff.rfl (exists_congr fun response => and_congr_right fun _ => ?_)
  split
  · rename_i hstatus
    simp [hstatus]
  · rename_i hstatus
    refine iff_of_false (fun h => ?_) fun h => hstatus h.1
    cases h
    cases he

theorem fileFault_iff (he : e.isFetch = false) {item : Json} : FileFault c item e ↔
    ∃ v, item.field? "download_url" = some v ∧ (download c v).outcome = .error e := by
  constructor
  · intro h
    cases h with
    | @address v hurl h =>
      refine ⟨v, hurl, ?_⟩
      cases v with
      | str url => cases h
      | _ => rfl
    | request hurl h => exact ⟨_, hurl, (download_error_iff he).mpr (.inl h)⟩
    | text hurl hresponse hstatus h =>
      exact ⟨_, hurl, (download_error_iff he).mpr (.inr ⟨_, hresponse, hstatus, h⟩)⟩
  · rintro ⟨v, hurl, h⟩
    cases v with
    | str url =>
      rcases (download_error_iff he).mp h with h | ⟨response, hresponse, hstatus, h⟩
      · exact .request hurl h
      · exact .text hurl hresponse hstatus h
    | _ =>
      cases h
      exact .address hurl rfl

/-- A download never fails for a missing field. -/
theorem not_fileFault_missingField {item : Json} (name : String) :
    ¬ FileFault c item (.missingField name) := by
  rintro (_ | ⟨_, h⟩ | ⟨_, _, _, h⟩)
  · have hkind := c.get_failsAs _ _ _ _ h
    cases hkind
  · have hkind := Response.text_failsAs _ _ h
    cases hkind

theorem skipped_ok {path : String} {e' : Failure} {u : Trail (Option String)}
    (h : content.skipped path e' = some u) : u.outcome = .ok none := by
  obtain rfl := Option.some.inj h
  rfl

theorem content_error_iff (he : e.isFetch = false) {item : Json} {path : String} :
    (content c item path).outcome = .error e ↔ FileFault c item e := by
  unfold content
  refine (Trail.recover_eq_error_of_ok ?_).trans ⟨?_, fun h => ⟨?_, ?_⟩⟩
  · intro e' u hu
    split at hu
    · exact ⟨_, skipped_ok hu⟩
    · split at hu
      · exact ⟨_, skipped_ok hu⟩
      · cases hu
  · rintro ⟨hasked, hnone⟩
    cases hurl : item.field? "download_url" with
    | none =>
      -- A missing address is reported, and the file is passed over.
      rw [hurl] at hasked
      cases hasked
      cases hnone
    | some v =>
      refine (fileFault_iff he).mpr ⟨v, hurl, ?_⟩
      simpa [hurl, bind_eq_error] using hasked
  · obtain ⟨v, hurl, hv⟩ := (fileFault_iff he).mp h
    simp [hurl, hv, bind_eq_error]
  · split
    · exact absurd h (not_fileFault_missingField _)
    · rw [he]
      rfl

end

/-! ## Items -/

/-- An item is a directory that a walk opens. -/
structure Opens (patterns : List String) (item : Json) (path : String) : Prop where
  kind : item.field "type" = .str "dir"
  shown : isHidden item = .ok false
  place : pathOf item = .str path
  taken : isExcluded path (excludedBy patterns) = false

/-- An item is a file of a language that is not left out. -/
structure Takes (patterns : List String) (item : Json) (path : String) : Prop where
  place : pathOf item = .str path
  taken : isExcluded path (excludedBy patterns) = false
  spoken : (Language.ofPath? path).isSome = true

/-- The size of an item is no greater than may be. -/
def IsSmall (limit : Int) (item : Json) : Prop :=
  ∃ x, (sizeOf item).number? = some x ∧ (FloatValue.finite (bound limit)).isLess x = false

/-- A file of a listing cannot be read. -/
inductive FileItemFault (c : Connection) (patterns : List String) (limit : Int) (item : Json) :
    Failure → Prop
  | path (h : (pathOf item).asString? = none) :
      FileItemFault c patterns limit item (.missingMember (pathOf item).kindName "replace")
  | size {path : String} (htakes : Takes patterns item path) (h : (sizeOf item).number? = none) :
      FileItemFault c patterns limit item
        (.wrongType (.unordered ">" (sizeOf item).kindName "int"))
  | content {path : String} {e : Failure} (htakes : Takes patterns item path)
      (hsmall : IsSmall limit item) (h : FileFault c item e) :
      FileItemFault c patterns limit item e
  /-- The text is to be measured and cannot be. -/
  | measure {path text : String} {e : Failure} (htakes : Takes patterns item path)
      (hsmall : IsSmall limit item) (hcontent : (content c item path).outcome = .ok (some text))
      (h : unitSize (sizeOf item) text = .error e) : FileItemFault c patterns limit item e

/-- An item of a listing cannot be read. -/
inductive ItemFault (c : Connection) (patterns : List String) (limit : Int) :
    (depth : Nat) → Json → Failure → Prop
  /-- The item is no object. -/
  | shape {depth : Nat} {item : Json} (h : ∀ fields, item ≠ .obj fields) :
      ItemFault c patterns limit depth item (.missingMember item.kindName "get")
  | name {depth : Nat} {item : Json} {e : Failure} (hkind : item.field "type" = .str "dir")
      (h : isHidden item = .error e) : ItemFault c patterns limit depth item e
  | path {depth : Nat} {item : Json} (hkind : item.field "type" = .str "dir")
      (hshown : isHidden item = .ok false) (h : (pathOf item).asString? = none) :
      ItemFault c patterns limit depth item (.missingMember (pathOf item).kindName "replace")
  | nesting {item : Json} {path : String} (h : Opens patterns item path) :
      ItemFault c patterns limit 0 item .nestedTooDeep
  | file {depth : Nat} {item : Json} {e : Failure} (hkind : item.field "type" = .str "file")
      (h : FileItemFault c patterns limit item e) : ItemFault c patterns limit depth item e

section

variable {c : Connection} {config : Configuration} {patterns : List String} {limit : Int}
  {r : RepositoryName} {branch : Json} {e : Failure} {item : Json} {depth : Nat}

theorem isTooLarge_error_iff (h : config.Settles patterns limit) :
    isTooLarge config (sizeOf item) = .error e ↔ (sizeOf item).number? = none ∧
      e = .wrongType (.unordered ">" (sizeOf item).kindName "int") := by
  unfold isTooLarge
  cases (sizeOf item).number? with
  | none => simp [h.sizeLimit_eq, Yaml.kindName, eq_comm (a := e)]
  | some x => simp [Configuration.exceedsLimit, h.sizeLimit_eq, Yaml.number?]

theorem isTooLarge_false_iff (h : config.Settles patterns limit) :
    isTooLarge config (sizeOf item) = .ok false ↔ IsSmall limit item := by
  unfold isTooLarge IsSmall
  cases (sizeOf item).number? with
  | none => simp
  | some x => simp [Configuration.exceedsLimit, h.sizeLimit_eq, Yaml.number?]

/-- A file that is taken fails for its size, for its text or for the size of its text. -/
theorem fileOf_error_of_takes (h : config.Settles patterns limit) (he : e.isFetch = false)
    {path : String} (htakes : Takes patterns item path) :
    (fileOf c config ((excludedBy patterns).map .str) item).outcome = .error e ↔
      ((sizeOf item).number? = none ∧
        e = .wrongType (.unordered ">" (sizeOf item).kindName "int")) ∨
      IsSmall limit item ∧ (FileFault c item e ∨ ∃ text,
        (content c item path).outcome = .ok (some text) ∧
          unitSize (sizeOf item) text = .error e) := by
  obtain ⟨l, hlanguage⟩ := Option.isSome_iff_exists.mp htakes.spoken
  rw [fileOf_eq htakes.place, htakes.taken, hlanguage, if_neg Bool.false_ne_true, bind_eq_error,
    isTooLarge_error_iff h]
  refine or_congr Iff.rfl ?_
  rw [← isTooLarge_false_iff h, ← content_error_iff he]
  constructor
  · rintro ⟨large, hsize, hrest⟩
    cases large with
    | true => cases hrest
    | false =>
      refine ⟨hsize, ?_⟩
      simp only [Bool.false_eq_true, if_false, bind_eq_error] at hrest
      rcases hrest with hcontent | ⟨text, hcontent, hrest⟩
      · exact .inl hcontent
      · cases text with
        | none => cases hrest
        | some text =>
          rcases bind_eq_error.mp hrest with hmeasure | ⟨_, _, hmade⟩
          · exact .inr ⟨text, hcontent, hmeasure⟩
          · cases hmade
  · rintro ⟨hsize, hrest⟩
    refine ⟨false, hsize, ?_⟩
    simp only [Bool.false_eq_true, if_false, bind_eq_error]
    rcases hrest with hcontent | ⟨text, hcontent, hmeasure⟩
    · exact .inl hcontent
    · exact .inr ⟨some text, hcontent, bind_eq_error.mpr (.inl hmeasure)⟩

/-- A file that is left out, or in no language, does not fail. -/
theorem fileOf_ok_of_not_takes (c : Connection) (config : Configuration) {path : String}
    (hplace : pathOf item = .str path)
    (htakes : ¬ Takes patterns item path) :
    ∃ s, (fileOf c config ((excludedBy patterns).map .str) item).outcome = .ok s := by
  rw [fileOf_eq hplace]
  cases hexcluded : isExcluded path (excludedBy patterns) with
  | true => exact ⟨_, rfl⟩
  | false =>
    cases hlanguage : Language.ofPath? path with
    | none => exact ⟨_, rfl⟩
    | some l => exact absurd ⟨hplace, hexcluded, by rw [hlanguage]; rfl⟩ htakes

theorem fileOf_error_iff (h : config.Settles patterns limit) (he : e.isFetch = false) :
    (fileOf c config ((excludedBy patterns).map .str) item).outcome = .error e ↔
      FileItemFault c patterns limit item e := by
  constructor
  · intro hfails
    cases hplace : (pathOf item).asString? with
    | none =>
      rw [fileOf_error_of_path hplace] at hfails
      cases hfails
      exact .path hplace
    | some path =>
      have hpath : pathOf item = .str path := Json.asString_eq_some.mp hplace
      by_cases htakes : Takes patterns item path
      · rcases (fileOf_error_of_takes h he htakes).mp hfails with
          ⟨hsize, rfl⟩ | ⟨hsmall, hcontent | ⟨text, hcontent, hmeasure⟩⟩
        · exact .size htakes hsize
        · exact .content htakes hsmall hcontent
        · exact .measure htakes hsmall hcontent hmeasure
      · obtain ⟨s, hs⟩ := fileOf_ok_of_not_takes c config hpath htakes
        rw [hs] at hfails
        cases hfails
  · rintro (hplace | ⟨htakes, hsize⟩ | ⟨htakes, hsmall, hcontent⟩ |
      ⟨htakes, hsmall, hcontent, hmeasure⟩)
    · exact fileOf_error_of_path hplace
    · exact (fileOf_error_of_takes h he htakes).mpr (.inl ⟨hsize, rfl⟩)
    · exact (fileOf_error_of_takes h he htakes).mpr (.inr ⟨hsmall, .inl hcontent⟩)
    · exact (fileOf_error_of_takes h he htakes).mpr
        (.inr ⟨hsmall, .inr ⟨_, hcontent, hmeasure⟩⟩)

/-- A directory that is opened is walked as far as its depth allows. -/
theorem walkItem_of_opens {path : String} (hopens : Opens patterns item path) :
    (walkItem c config ((excludedBy patterns).map .str) r branch depth item).outcome =
      match depth with
      | 0 => .error .nestedTooDeep
      | depth + 1 => (list c r path branch).outcome >>= fun below =>
        (walk c config ((excludedBy patterns).map .str) r branch depth below).outcome := by
  have hopen := isLeftOut_ok_iff.mpr ⟨path, hopens.place, hopens.taken⟩
  rw [walkItem_of_directory hopens.kind, hopens.shown, hopen, hopens.place]
  cases depth <;> rfl

/-- A directory has no name or no path to go by, or is passed over, or is opened. -/
theorem walkItem_directory_cases (c : Connection) (config : Configuration) (r : RepositoryName)
    (branch : Json) (patterns : List String) (depth : Nat)
    (hkind : item.field "type" = .str "dir") :
    (∃ e, isHidden item = .error e ∧
      (walkItem c config ((excludedBy patterns).map .str) r branch depth item).outcome = .error e) ∨
    (isHidden item = .ok false ∧ (pathOf item).asString? = none ∧
      (walkItem c config ((excludedBy patterns).map .str) r branch depth item).outcome =
        .error (.missingMember (pathOf item).kindName "replace")) ∨
    (walkItem c config ((excludedBy patterns).map .str) r branch depth item).outcome = .ok {} ∨
    ∃ path, Opens patterns item path := by
  rw [walkItem_of_directory hkind]
  cases hshown : isHidden item with
  | error e => exact .inl ⟨e, rfl, rfl⟩
  | ok hidden =>
    cases hidden with
    | true => exact .inr (.inr (.inl rfl))
    | false =>
      cases hout : isLeftOut (pathOf item) ((excludedBy patterns).map .str) with
      | error e =>
        obtain ⟨htext, rfl⟩ := isLeftOut_error_iff.mp hout
        exact .inr (.inl ⟨rfl, htext, rfl⟩)
      | ok out =>
        cases out with
        | true => exact .inr (.inr (.inl rfl))
        | false =>
          obtain ⟨path, hplace, htaken⟩ := isLeftOut_ok_iff.mp hout
          exact .inr (.inr (.inr ⟨path, hkind, hshown, hplace, htaken⟩))

/-- What a directory fails for. -/
theorem walkItem_error_of_directory (he : e.isFetch = false)
    (hkind : item.field "type" = .str "dir") :
    (walkItem c config ((excludedBy patterns).map .str) r branch depth item).outcome = .error e ↔
      isHidden item = .error e ∨
      (isHidden item = .ok false ∧ (pathOf item).asString? = none ∧
        e = .missingMember (pathOf item).kindName "replace") ∨
      ∃ path, Opens patterns item path ∧
        (depth = 0 ∧ e = .nestedTooDeep ∨ ∃ d, depth = d + 1 ∧
          (ListingFault c r path branch e ∨ ∃ below, (list c r path branch).outcome = .ok below ∧
            (walk c config ((excludedBy patterns).map .str) r branch d below).outcome =
              .error e)) := by
  constructor
  · intro hfails
    rcases walkItem_directory_cases c config r branch patterns depth hkind with
      ⟨e', hname, hstopped⟩ | ⟨hshown, hplace, hstopped⟩ | hpassed | ⟨path, hopens⟩
    · rw [hstopped] at hfails
      cases hfails
      exact .inl hname
    · rw [hstopped] at hfails
      cases hfails
      exact .inr (.inl ⟨hshown, hplace, rfl⟩)
    · rw [hpassed] at hfails
      cases hfails
    · refine .inr (.inr ⟨path, hopens, ?_⟩)
      rw [walkItem_of_opens hopens] at hfails
      cases depth with
      | zero =>
        cases hfails
        exact .inl ⟨rfl, rfl⟩
      | succ d => exact .inr ⟨d, rfl, by simpa only [bind_eq_error, list_error_iff he] using hfails⟩
  · rintro (hname | ⟨hshown, hplace, rfl⟩ | ⟨path, hopens, h⟩)
    · rw [walkItem_of_directory hkind, hname]
      rfl
    · rw [walkItem_of_directory hkind, hshown, isLeftOut_error_iff.mpr ⟨hplace, rfl⟩]
      rfl
    · rw [walkItem_of_opens hopens]
      rcases h with ⟨rfl, rfl⟩ | ⟨d, rfl, h⟩
      · rfl
      · simpa only [bind_eq_error, list_error_iff he] using h

/-- An item fails for what it says, or for what is below it. -/
theorem walkItem_error_iff (h : config.Settles patterns limit) (he : e.isFetch = false) :
    (walkItem c config ((excludedBy patterns).map .str) r branch depth item).outcome = .error e ↔
      ItemFault c patterns limit depth item e ∨
      ∃ d path, depth = d + 1 ∧ Opens patterns item path ∧
        (ListingFault c r path branch e ∨ ∃ below, (list c r path branch).outcome = .ok below ∧
          (walk c config ((excludedBy patterns).map .str) r branch d below).outcome =
            .error e) := by
  constructor
  · intro hfails
    by_cases hdirectory : item.field "type" = .str "dir"
    · rcases (walkItem_error_of_directory he hdirectory).mp hfails with
        hname | ⟨hshown, hplace, rfl⟩ | ⟨path, hopens, ⟨rfl, rfl⟩ | ⟨d, rfl, hbelow⟩⟩
      · exact .inl (.name hdirectory hname)
      · exact .inl (.path hdirectory hshown hplace)
      · exact .inl (.nesting hopens)
      · exact .inr ⟨d, path, rfl, hopens, hbelow⟩
    · by_cases hfile : item.field "type" = .str "file"
      · rw [walkItem_of_file hfile, fileOf_error_iff h he] at hfails
        exact .inl (.file hfile hfails)
      · rcases walkItem_of_other hdirectory hfile with hshape | hpassed
        · rw [walkItem_of_shape hshape] at hfails
          cases hfails
          exact .inl (.shape hshape)
        · -- Whatever else an object says is passed over.
          rw [hpassed] at hfails
          cases hfails
  · rintro (hfault | ⟨d, path, rfl, hopens, hbelow⟩)
    · cases hfault with
      | shape hshape => rw [walkItem_of_shape hshape]; rfl
      | name hkind hname => exact (walkItem_error_of_directory he hkind).mpr (.inl hname)
      | path hkind hshown hplace =>
        exact (walkItem_error_of_directory he hkind).mpr (.inr (.inl ⟨hshown, hplace, rfl⟩))
      | nesting hopens =>
        exact (walkItem_error_of_directory he hopens.kind).mpr
          (.inr (.inr ⟨_, hopens, .inl ⟨rfl, rfl⟩⟩))
      | file hkind hfile => rwa [walkItem_of_file hkind, fileOf_error_iff h he]
    · exact (walkItem_error_of_directory he hopens.kind).mpr
        (.inr (.inr ⟨path, hopens, .inr ⟨d, rfl, hbelow⟩⟩))

/-- A walk fails at the first item that fails. -/
theorem walk_error_iff_exists {exclusions : List Yaml} {items : List Json} :
    (walk c config exclusions r branch depth items).outcome = .error e ↔
      ∃ before item after, items = before ++ item :: after ∧
        (∀ i ∈ before, ∃ s, (walkItem c config exclusions r branch depth i).outcome = .ok s) ∧
        (walkItem c config exclusions r branch depth item).outcome = .error e := by
  induction items with
  | nil =>
    rw [walk]
    simp
  | cons first rest ih =>
    rw [walk]
    simp only [Trail.outcome_bind, bind_eq_error, ih, Trail.outcome_pure, reduceCtorEq, and_false,
      exists_false, or_false]
    constructor
    · rintro (h | ⟨s, hs, before, item, after, rfl, hbefore, h⟩)
      · exact ⟨[], first, rest, rfl, by simp, h⟩
      · exact ⟨first :: before, item, after, rfl, List.forall_mem_cons.mpr ⟨⟨s, hs⟩, hbefore⟩, h⟩
    · rintro ⟨before, item, after, hitems, hbefore, h⟩
      cases before with
      | nil =>
        obtain ⟨rfl, rfl⟩ := List.cons.inj hitems
        exact .inl h
      | cons i before =>
        obtain ⟨rfl, rfl⟩ := List.cons.inj hitems
        obtain ⟨⟨s, hs⟩, hbefore⟩ := List.forall_mem_cons.mp hbefore
        exact .inr ⟨s, hs, before, item, after, rfl, hbefore, h⟩

end

/-! ## Walks -/

/-- A walk of some items comes upon what it cannot read, having read all the items before. -/
inductive WalkFault (c : Connection) (config : Configuration) (patterns : List String)
    (limit : Int) (r : RepositoryName) (branch : Json) :
    (depth : Nat) → List Json → Failure → Prop
  | item {depth : Nat} {before after : List Json} {item : Json} {e : Failure}
      (hbefore : ∀ i ∈ before, ∃ s, (walkItem c config ((excludedBy patterns).map .str) r branch
        depth i).outcome = .ok s)
      (h : ItemFault c patterns limit depth item e) :
      WalkFault c config patterns limit r branch depth (before ++ item :: after) e
  | listing {depth : Nat} {before after : List Json} {item : Json} {path : String} {e : Failure}
      (hbefore : ∀ i ∈ before, ∃ s, (walkItem c config ((excludedBy patterns).map .str) r branch
        (depth + 1) i).outcome = .ok s)
      (hopens : Opens patterns item path) (h : ListingFault c r path branch e) :
      WalkFault c config patterns limit r branch (depth + 1) (before ++ item :: after) e
  | nested {depth : Nat} {before after below : List Json} {item : Json} {path : String}
      {e : Failure}
      (hbefore : ∀ i ∈ before, ∃ s, (walkItem c config ((excludedBy patterns).map .str) r branch
        (depth + 1) i).outcome = .ok s)
      (hopens : Opens patterns item path) (hlist : (list c r path branch).outcome = .ok below)
      (h : WalkFault c config patterns limit r branch depth below e) :
      WalkFault c config patterns limit r branch (depth + 1) (before ++ item :: after) e

section

variable {c : Connection} {config : Configuration} {patterns : List String} {limit : Int}
  {r : RepositoryName} {branch : Json} {e : Failure} {item : Json} {depth : Nat}

theorem walk_error_iff (h : config.Settles patterns limit) (he : e.isFetch = false)
    {items : List Json} :
    (walk c config ((excludedBy patterns).map .str) r branch depth items).outcome = .error e ↔
      WalkFault c config patterns limit r branch depth items e := by
  induction depth generalizing items with
  | zero =>
    rw [walk_error_iff_exists]
    constructor
    · rintro ⟨before, item, after, rfl, hbefore, hitem⟩
      rcases (walkItem_error_iff h he).mp hitem with hfault | ⟨_, _, hdepth, _⟩
      · exact .item hbefore hfault
      · cases hdepth
    · rintro ⟨hbefore, hfault⟩
      exact ⟨_, _, _, rfl, hbefore, (walkItem_error_iff h he).mpr (.inl hfault)⟩
  | succ depth ih =>
    rw [walk_error_iff_exists]
    constructor
    · rintro ⟨before, item, after, rfl, hbefore, hitem⟩
      rcases (walkItem_error_iff h he).mp hitem with
        hfault | ⟨d, path, hdepth, hopens, hbelow⟩
      · exact .item hbefore hfault
      · obtain rfl := Nat.succ.inj hdepth
        rcases hbelow with hlist | ⟨below, hlist, hwalk⟩
        · exact .listing hbefore hopens hlist
        · exact .nested hbefore hopens hlist (ih.mp hwalk)
    · rintro (⟨hbefore, hfault⟩ | ⟨hbefore, hopens, hlist⟩ | ⟨hbefore, hopens, hlist, hwalk⟩)
      · exact ⟨_, _, _, rfl, hbefore, (walkItem_error_iff h he).mpr (.inl hfault)⟩
      · exact ⟨_, _, _, rfl, hbefore,
          (walkItem_error_iff h he).mpr (.inr ⟨_, _, rfl, hopens, .inl hlist⟩)⟩
      · exact ⟨_, _, _, rfl, hbefore, (walkItem_error_iff h he).mpr
          (.inr ⟨_, _, rfl, hopens, .inr ⟨_, hlist, ih.mpr hwalk⟩⟩)⟩

/-- What the root fails for: there is a branch to try instead of the default one. -/
theorem root_error_iff (he : e.isFetch = false) :
    (root c r branch).outcome = .error e ↔ ListingFault c r "" branch e ∨
      (branch = .str defaultBranch ∧ (list c r "" branch).outcome = .error .repositoryNotFound ∧
        ListingFault c r "" (.str fallbackBranch) e) := by
  unfold root
  simp only [Trail.recover_eq_error, Trail.outcome_bind, Trail.outcome_pure, bind_eq_error,
    reduceCtorEq, and_false, exists_false, or_false]
  constructor
  · rintro ⟨e', hlist, ⟨_, rfl⟩ | ⟨u, hu, hfails⟩⟩
    · exact .inl ((list_error_iff he).mp hlist)
    · split at hu
      · split at hu
        · rename_i hdefault
          obtain rfl := Option.some.inj hu
          simp only [Trail.outcome_bind, Trail.outcome_info, ok_bind, Trail.outcome_pure,
            bind_eq_error, reduceCtorEq, and_false, exists_false, or_false] at hfails
          exact .inr ⟨Json.asString_eq_some.mp (by simpa using hdefault), hlist,
            (list_error_iff he).mp hfails⟩
        · cases hu
      · cases hu
  · rintro (hlist | ⟨rfl, hmissing, hlist⟩)
    · refine ⟨e, (list_error_iff he).mpr hlist, .inl ⟨?_, rfl⟩⟩
      split
      · cases he
      · rfl
    · refine ⟨.repositoryNotFound, hmissing, .inr ⟨_, rfl, ?_⟩⟩
      simp [bind_eq_error, (list_error_iff he).mpr hlist]

end

/-! ## Fetches -/

/-- A fetch comes upon what it cannot read, having read all that comes before. -/
inductive Mishap (c : Connection) (config : Configuration) (patterns : List String) (limit : Int)
    (r : RepositoryName) : Failure → Prop
  | branch {e : Failure} (hunnamed : r.branch = none) (h : BranchFault c r e) :
      Mishap c config patterns limit r e
  | root {b : Json} {e : Failure} (hbranch : (branchOf c r).outcome = .ok b)
      (h : ListingFault c r "" b e) : Mishap c config patterns limit r e
  /-- The branch that is tried instead. -/
  | fallback {e : Failure} (hbranch : (branchOf c r).outcome = .ok (.str defaultBranch))
      (hmissing : (list c r "" (.str defaultBranch)).outcome = .error .repositoryNotFound)
      (h : ListingFault c r "" (.str fallbackBranch) e) : Mishap c config patterns limit r e
  | walk {b branch : Json} {items : List Json} {e : Failure}
      (hbranch : (branchOf c r).outcome = .ok b)
      (hroot : (root c r b).outcome = .ok (branch, items))
      (h : WalkFault c config patterns limit r branch maxNesting items e) :
      Mishap c config patterns limit r e

section

variable {c : Connection} {config : Configuration} {patterns : List String} {limit : Int}
  {r : RepositoryName} {e : Failure}

/-- Once the root is listed, only the walk can fail. -/
theorem fetchNamed_error_iff_walk (h : config.Settles patterns limit) :
    (fetchNamed c config r).outcome = .error e ↔ (branchOf c r).outcome = .error e ∨
      ∃ b, (branchOf c r).outcome = .ok b ∧ ((root c r b).outcome = .error e ∨
        ∃ branch items, (root c r b).outcome = .ok (branch, items) ∧
          (walk c config ((excludedBy patterns).map .str) r branch maxNesting items).outcome =
            .error e) := by
  unfold fetchNamed
  simp only [Trail.outcome_bind, bind_eq_error, Prod.exists]
  refine or_congr Iff.rfl (exists_congr fun b => and_congr_right fun _ => or_congr Iff.rfl
    (exists_congr fun branch => exists_congr fun items => and_congr_right fun _ => ?_))
  cases items with
  | nil =>
    rw [walk]
    simp [h.exclusions_eq]
  | cons item items => simp [h.exclusions_eq, bind_eq_error]

theorem fetchNamed_error_iff (h : config.Settles patterns limit) (he : e.isFetch = false) :
    (fetchNamed c config r).outcome = .error e ↔ Mishap c config patterns limit r e := by
  rw [fetchNamed_error_iff_walk h]
  simp only [branchOf_error_iff he, root_error_iff he, walk_error_iff h he]
  constructor
  · rintro (⟨hunnamed, hfault⟩ | ⟨b, hbranch, (hfault | ⟨rfl, hmissing, hfault⟩) |
      ⟨branch, items, hroot, hfault⟩⟩)
    · exact .branch hunnamed hfault
    · exact .root hbranch hfault
    · exact .fallback hbranch hmissing hfault
    · exact .walk hbranch hroot hfault
  · rintro (⟨hunnamed, hfault⟩ | ⟨hbranch, hfault⟩ | ⟨hbranch, hmissing, hfault⟩ |
      ⟨hbranch, hroot, hfault⟩)
    · exact .inl ⟨hunnamed, hfault⟩
    · exact .inr ⟨_, hbranch, .inl (.inl hfault)⟩
    · exact .inr ⟨_, hbranch, .inl (.inr ⟨rfl, hmissing, hfault⟩)⟩
    · exact .inr ⟨_, hbranch, .inr ⟨_, _, hroot, hfault⟩⟩

/-- A failure of a fetch that is not its own comes from a mishap, and every mishap ends the fetch in
its failure. -/
theorem fetch_error_iff (h : config.Settles patterns limit) (he : e.isFetch = false)
    (target : String) : (fetch c config target).outcome = .error e ↔
      ∃ r, parse target = .ok r ∧ Mishap c config patterns limit r e := by
  unfold fetch
  simp only [Trail.outcome_bind, Trail.outcome_ofExcept, bind_eq_error, fetchNamed_error_iff h he]
  refine or_iff_right ?_
  intro hparse
  unfold parse at hparse
  dsimp only at hparse
  split at hparse
  · cases hparse
  · cases hparse
    cases he

end

/-- A server whose documents are none. -/
def garbledServer : Connection :=
  ⟨fun _ => .message ⟨200, [], "not json"⟩, none⟩

theorem fetch_garbled :
    (fetch garbledServer {} "https://github.com/o/r/tree/main").outcome =
      .error (.malformedJson (.malformed .noValue 1 1 0)) := by
  decide +kernel

theorem fetch_garbled_not_own :
    ¬ ((∃ s, (fetch garbledServer {} "https://github.com/o/r/tree/main").outcome = .ok s) ∨
      ∃ e, (fetch garbledServer {} "https://github.com/o/r/tree/main").outcome = .error e ∧
        e.isFetch = true) := by
  rw [fetch_garbled]
  rintro (⟨s, hs⟩ | ⟨e, he, hown⟩)
  · cases hs
  · cases he
    cases hown

end RepositoryName

end Assay
