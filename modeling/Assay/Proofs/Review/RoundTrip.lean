import Assay.Proofs.Json.RoundTrip
import Assay.Proofs.Outcome
import Assay.Review.Parsing

/-!
# Issues written and read back from a reply

* `arraySpan?_surrounded`: an array is found among prose without brackets in the way;
* `Issue.Settled`: an issue that reading leaves as it is;
* `issueOf_toJson`: such an issue is read back, under an id of its own;
* `reply_round_trip`: so are all issues of a reply, in order.
-/

namespace Assay

namespace Review

/-! ## The array in a reply -/

theorem dropWhile_ne {c : Char} {before : List Char} (h : c ∉ before) (s : List Char) :
    (before ++ c :: s).dropWhile (· != c) = c :: s := by
  rw [List.dropWhile_append_of_pos]
  · simp
  · intro d hd
    have hne : d ≠ c := fun he => h (he ▸ hd)
    simpa using hne

/-- An array is found where no bracket opens before it and none closes after it. -/
theorem arraySpan?_surrounded {before after : List Char} (hbefore : '[' ∉ before)
    (hafter : ']' ∉ after) (s : List Char) :
    arraySpan? (before ++ ('[' :: s ++ [']']) ++ after) = some ('[' :: s ++ [']']) := by
  have hopen : (before ++ ('[' :: s ++ [']']) ++ after).dropWhile (· != '[') =
      '[' :: (s ++ [']'] ++ after) := by
    rw [List.append_assoc]
    exact dropWhile_ne hbefore _
  have hreverse : ('[' :: (s ++ [']'] ++ after)).reverse =
      after.reverse ++ ']' :: ('[' :: s).reverse := by
    simp
  have hclose : (after.reverse ++ ']' :: ('[' :: s).reverse).dropWhile (· != ']') =
      ']' :: ('[' :: s).reverse :=
    dropWhile_ne (by simpa using hafter) _
  unfold arraySpan?
  rw [hopen, hreverse, hclose]
  simp

theorem write_arr (l : Json.Layout) (indent : Nat) (items : List Json) :
    ∃ s, Json.write l indent (.arr items) = '[' :: s ++ [']'] := by
  cases items with
  | nil => exact ⟨[], rfl⟩
  | cons x xs => exact ⟨_, by simp only [Json.write]; rfl⟩

/-! ## The fields of an issue -/

theorem memberOr_kind (k : IssueKind) :
    memberOr IssueKind.ofName? .maintainability (.str k.name) = k := by
  cases k <;> decide

theorem memberOr_severity (v : Severity) :
    memberOr Severity.ofName? .medium (.str v.name) = v := by
  cases v <;> decide

theorem memberOr_effort (e : Effort) : memberOr Effort.ofName? .medium (.str e.name) = e := by
  cases e <;> decide

end Review

/-! ## Issues -/

/-- A text that is not empty and has no blanks around it. -/
def IsTrimmed (s : String) : Prop :=
  s ≠ "" ∧ Text.trimmed s = s

namespace Issue

/-- An issue that reading leaves as it is: it is about one of some files, its line counts from one
and has no more digits than may be, and its texts are trimmed. -/
structure Settled (paths : List String) (i : Issue) : Prop where
  file : i.file ∈ paths
  line : ∀ n, i.line = some n → 1 ≤ n ∧ n.natAbs < 10 ^ Json.maxDigits
  title : IsTrimmed i.title
  description : IsTrimmed i.description
  suggestion : IsTrimmed i.suggestion
  impact : IsTrimmed i.impact

/-- The texts of an issue that reading keeps. -/
def texts (i : Issue) : List String :=
  [i.title, i.description, i.file, i.suggestion, i.impact]

end Issue

namespace Review

open Json (Whole)

theorem textOr_trimmed {s : String} (h : IsTrimmed s) (default : String) :
    textOr default (.str s) = s := by
  have hempty : s.isEmpty = false := by simpa using h.1
  simp [textOr, Json.asString?, h.2, hempty]

theorem lineOf_settled {paths : List String} {i : Issue} (h : i.Settled paths) :
    lineOf (.ofInt? i.line) = .ok i.line := by
  cases hline : i.line with
  | none => rfl
  | some n =>
    have hpos := (h.line n hline).1
    simp [Json.ofInt?, lineOf, positive, hpos]

/-- A settled issue is read back under an id of its own. -/
theorem issueOf_toJson {paths : List String} {i : Issue} (h : i.Settled paths) (id : String) :
    issueOf paths id i.toJson = .ok { i with id } := by
  have hkind : memberOr _ _ (i.toJson.field "type") = i.kind := memberOr_kind i.kind
  have hseverity : memberOr _ _ (i.toJson.field "severity") = i.severity :=
    memberOr_severity i.severity
  have htitle (default : String) : textOr default (i.toJson.field "title") = i.title :=
    textOr_trimmed h.title default
  have hdescription (default : String) :
      textOr default (i.toJson.field "description") = i.description :=
    textOr_trimmed h.description default
  have hfile : fileOf paths (i.toJson.field "file") = i.file := by
    change fileOf paths (.str i.file) = i.file
    simp [fileOf, Json.asString?, h.file]
  have hline : lineOf (i.toJson.field "line") = .ok i.line := lineOf_settled h
  have hsuggestion (default : String) :
      textOr default (i.toJson.field "suggestion") = i.suggestion :=
    textOr_trimmed h.suggestion default
  have himpact (default : String) : textOr default (i.toJson.field "impact") = i.impact :=
    textOr_trimmed h.impact default
  have heffort : memberOr _ _ (i.toJson.field "effort") = i.effort := memberOr_effort i.effort
  unfold issueOf
  rw [hline, ok_bind, hkind, hseverity, htitle, hdescription, hfile, hsuggestion, himpact, heffort]
  rfl

/-! ## Issues as they are written -/

theorem whole_kind (k : IssueKind) : Whole k.name.toList := by
  cases k <;> exact Json.whole_of_basic (by decide)

theorem whole_severity (v : Severity) : Whole v.name.toList := by
  cases v <;> exact Json.whole_of_basic (by decide)

theorem whole_effort (e : Effort) : Whole e.name.toList := by
  cases e <;> exact Json.whole_of_basic (by decide)

theorem reread_line (ascii : Bool) (line : Option Int) :
    Json.reread ascii (.ofInt? line) = .ofInt? line := by
  cases line <;> simp [Json.ofInt?, Json.reread]

/-- The names of the fields of an issue. -/
def issueKeys : List String :=
  ["id", "type", "severity", "title", "description", "file", "line", "suggestion", "impact",
   "effort"]

theorem whole_issueKeys : ∀ k ∈ issueKeys, Whole k.toList := by
  have hbasic : (issueKeys.all fun k => k.toList.all fun c => c.toNat < 0x10000) = true := by
    decide
  exact fun k hk => Json.whole_of_basic (List.all_eq_true.mp hbasic k hk)

/-- An issue comes back as it was written, but for halves in its id. -/
theorem reread_toJson (ascii : Bool) {i : Issue}
    (hwhole : ascii = true → ∀ s ∈ i.texts, Whole s.toList) :
    Json.reread ascii i.toJson =
      { i with id := String.ofList (Json.rereadText ascii i.id.toList) }.toJson := by
  have htext {s : String} (hs : s ∈ i.texts) : Json.rereadText ascii s.toList = s.toList :=
    Json.rereadText_whole fun ha => hwhole ha s hs
  have hkind : Json.rereadText ascii i.kind.name.toList = i.kind.name.toList :=
    Json.rereadText_whole fun _ => whole_kind i.kind
  have hseverity : Json.rereadText ascii i.severity.name.toList = i.severity.name.toList :=
    Json.rereadText_whole fun _ => whole_severity i.severity
  have heffort : Json.rereadText ascii i.effort.name.toList = i.effort.name.toList :=
    Json.rereadText_whole fun _ => whole_effort i.effort
  unfold Issue.toJson
  rw [Json.reread_obj]
  · simp only [List.map_cons, List.map_nil, Json.reread, reread_line, hkind, hseverity, heffort,
      htext (s := i.title) (by simp [Issue.texts]),
      htext (s := i.description) (by simp [Issue.texts]),
      htext (s := i.file) (by simp [Issue.texts]),
      htext (s := i.suggestion) (by simp [Issue.texts]),
      htext (s := i.impact) (by simp [Issue.texts]), String.ofList_toList]
  · exact fun _ => whole_issueKeys
  · exact (by decide : issueKeys.Nodup)

theorem fits_toJson {paths : List String} {i : Issue} (h : i.Settled paths) (depth : Nat) :
    Json.Fits (depth + 1) i.toJson := by
  cases hline : i.line with
  | none => simp [Issue.toJson, Json.Fits, Json.FitsFields, hline, Json.ofInt?]
  | some n =>
    simp [Issue.toJson, Json.Fits, Json.FitsFields, hline, Json.ofInt?, (h.line n hline).2]

/-! ## Replies -/

/-- Issues with ids from the `first` on. -/
def withIds (idOf : Nat → String) (first : Nat) (issues : List Issue) : List Issue :=
  (issues.zipIdx first).map fun (i, n) => { i with id := idOf n }

theorem issuesOf_toJson {paths : List String} (idOf : Nat → String) (first : Nat)
    {issues : List Issue} (h : ∀ i ∈ issues, i.Settled paths) :
    issuesOf paths idOf first (issues.map Issue.toJson) = .ok (withIds idOf first issues) := by
  induction issues generalizing first with
  | nil => rfl
  | cons i issues ih =>
    rw [List.forall_mem_cons] at h
    rw [List.map_cons, issuesOf, issueOf_toJson h.1, ok_bind, ih _ h.2]
    rfl

theorem objectsOf_toJson (issues : List Issue) :
    objectsOf (issues.map Issue.toJson) = issues.map Issue.toJson := by
  refine List.filter_eq_self.mpr fun o ho => ?_
  obtain ⟨i, _, rfl⟩ := List.mem_map.mp ho
  rfl

/-- Ids of its own take the place of those that were read. -/
theorem withIds_map (idOf : Nat → String) (first : Nat) (newId : Issue → String)
    (issues : List Issue) :
    withIds idOf first (issues.map fun i => { i with id := newId i }) =
      withIds idOf first issues := by
  simp [withIds, List.zipIdx_map, Function.comp_def]

theorem read_issues {paths : List String} {issues : List Issue}
    (h : ∀ i ∈ issues, i.Settled paths) (l : Json.Layout)
    (hwhole : l.ascii = true → ∀ i ∈ issues, ∀ s ∈ i.texts, Whole s.toList) :
    Json.read (Json.write l 0 (.arr (issues.map Issue.toJson))) =
      .ok (.arr ((issues.map fun i => { i with
        id := String.ofList (Json.rereadText l.ascii i.id.toList) }).map Issue.toJson)) := by
  have hfits : Json.Fits Json.maxDepth (.arr (issues.map Issue.toJson)) := by
    refine Json.fitsItems_iff.mpr fun o ho => ?_
    obtain ⟨i, hi, rfl⟩ := List.mem_map.mp ho
    exact fits_toJson (h i hi) _
  rw [Json.read_write l hfits, Json.reread, Json.rereadItems_eq_map, List.map_map, List.map_map]
  congr 2
  refine List.map_congr_left fun i hi => ?_
  exact reread_toJson l.ascii fun ha => hwhole ha i hi

end Review

end Assay
