import Assay.Proofs.Json.Number
import Assay.Proofs.Text.LineBreaks
import Assay.Rendering.Markdown

/-!
# The table of issues in a document

* `Markdown.cellsOf`: what stands between the marks of a row; a mark behind a backslash is none;
* `Markdown.cellsOf_row_iff`: a row has the cells that it was made of exactly if every mark in them
  is escaped;
* `Markdown.HasTable`: the document ends with a table that has one row for each issue;
* `Markdown.markdown_table_iff`: so it does exactly if every title and every file fits a cell.
-/

namespace Assay

namespace Markdown

/-! ## Cells -/

/-- A row cut at every mark that no backslash escapes, given the character before it. -/
def cellsFrom (before : Char) : List Char → List (List Char)
  | [] => [[]]
  | c :: s =>
    if c = '|' ∧ before ≠ '\\' then [] :: cellsFrom c s
    else (cellsFrom c s).modifyHead (c :: ·)

/-- What stands between the marks of a row. -/
def cellsOf (line : String) : List String :=
  (cellsFrom '\n' line.toList).map String.ofList

/-- A backslash stands before every mark. -/
def IsEscaped (s : List Char) : Prop :=
  ∀ u v, s = u ++ '|' :: v → u.getLast? = some '\\'

theorem cellsFrom_ne_nil (before : Char) (s : List Char) : cellsFrom before s ≠ [] := by
  cases s with
  | nil => exact List.cons_ne_nil _ _
  | cons c s =>
    rw [cellsFrom]
    split
    · exact List.cons_ne_nil _ _
    · rw [ne_eq, List.modifyHead_eq_nil_iff]
      exact cellsFrom_ne_nil c s

/-- A mark behind a blank ends a cell. -/
theorem cellsFrom_mark (before : Char) (s t : List Char) :
    cellsFrom before (s ++ ' ' :: '|' :: t) = cellsFrom before (s ++ [' ']) ++ cellsFrom '|' t := by
  induction s generalizing before with
  | nil => simp [cellsFrom]
  | cons c s ih =>
    rw [List.cons_append, List.cons_append, cellsFrom, cellsFrom, ih]
    split
    · rfl
    · obtain ⟨cell, cells, hcells⟩ := List.exists_cons_of_ne_nil (cellsFrom_ne_nil c (s ++ [' ']))
      rw [hcells]
      rfl

theorem cellsFrom_escaped {before : Char} {s : List Char}
    (h : ∀ u v, s = u ++ '|' :: v → (before :: u).getLast? = some '\\') :
    cellsFrom before s = [s] := by
  induction s generalizing before with
  | nil => rfl
  | cons c s ih =>
    have hrest : cellsFrom c s = [s] := ih fun u v hs => by
      have hu := h (c :: u) v (by rw [hs]; rfl)
      rwa [List.getLast?_cons_cons] at hu
    have hmark : ¬ (c = '|' ∧ before ≠ '\\') := by
      rintro ⟨rfl, hne⟩
      exact hne (by simpa using h [] s rfl)
    rw [cellsFrom, if_neg hmark, hrest]
    rfl

theorem escaped_of_length_cellsFrom {before : Char} {s : List Char}
    (h : (cellsFrom before s).length = 1) :
    ∀ u v, s = u ++ '|' :: v → (before :: u).getLast? = some '\\' := by
  induction s generalizing before with
  | nil => simp
  | cons c s ih =>
    rw [cellsFrom] at h
    split at h
    · have hpos := List.length_pos_iff.mpr (cellsFrom_ne_nil c s)
      rw [List.length_cons] at h
      omega
    · rename_i hmark
      rw [List.length_modifyHead] at h
      intro u v hs
      cases u with
      | nil =>
        obtain ⟨rfl, rfl⟩ := List.cons.inj hs
        have hbefore : before = '\\' := by
          by_contra hne
          exact hmark ⟨rfl, hne⟩
        rw [hbefore]
        rfl
      | cons x u =>
        obtain ⟨rfl, rfl⟩ := List.cons.inj hs
        rw [List.getLast?_cons_cons]
        exact ih h u v rfl

/-- What stands around a text escapes none of its marks. -/
theorem isEscaped_enclosed {first last : Char} {s : List Char} (hfirst : first ≠ '|' ∧ first ≠ '\\')
    (hlast : last ≠ '|') : IsEscaped (first :: (s ++ [last])) ↔ IsEscaped s := by
  constructor
  · intro h u v hs
    have hu := h (first :: u) (v ++ [last]) (by rw [hs]; simp)
    cases u with
    | nil => exact absurd (by simpa using hu) hfirst.2
    | cons x u => rwa [List.getLast?_cons_cons] at hu
  · intro h u v hs
    cases u with
    | nil => exact absurd (List.cons.inj hs).1 hfirst.1
    | cons x u =>
      obtain ⟨rfl, htext⟩ := List.cons.inj hs
      rcases List.eq_nil_or_concat v with rfl | ⟨v, y, rfl⟩
      · obtain ⟨_, heq⟩ := List.append_inj' htext rfl
        exact absurd (List.cons.inj heq).1 hlast
      · have hs : s ++ [last] = (u ++ '|' :: v) ++ [y] := by simpa using htext
        have hu := h u v (List.append_inj' hs rfl).1
        cases u with
        | nil => cases hu
        | cons y u => rwa [List.getLast?_cons_cons]

/-- A cell with its blanks. -/
def padded (p : String) : List Char :=
  ' ' :: (p.toList ++ [' '])

theorem escaped_padded_iff {p : String} :
    (∀ u v, padded p = u ++ '|' :: v → ('|' :: u).getLast? = some '\\') ↔ IsEscaped p.toList := by
  have henclosed : IsEscaped (padded p) ↔ IsEscaped p.toList :=
    isEscaped_enclosed (by decide) (by decide)
  rw [← henclosed]
  refine forall₃_congr fun u v hs => ?_
  cases u with
  | nil => exact absurd (List.cons.inj hs).1 (by decide)
  | cons x u => rw [List.getLast?_cons_cons]

theorem toList_row {p : String} {rest : List String} :
    (row (p :: rest)).toList = '|' :: (p :: rest).flatMap fun q => padded q ++ ['|'] := by
  induction rest generalizing p with
  | nil => simp [row, Text.join, padded]
  | cons q rest ih =>
    have hrow : (row (p :: q :: rest)).toList = '|' :: (padded p ++ (row (q :: rest)).toList) := by
      simp [row, Text.join, padded]
    rw [hrow, ih, List.flatMap_cons]
    simp

theorem cellsFrom_parts (parts : List String) :
    cellsFrom '|' (parts.flatMap fun q => padded q ++ ['|']) =
      (parts.flatMap fun q => cellsFrom '|' (padded q)) ++ [[]] := by
  induction parts with
  | nil => rfl
  | cons p parts ih =>
    have hpart : (p :: parts).flatMap (fun q => padded q ++ ['|']) =
        (' ' :: p.toList) ++ ' ' :: '|' :: parts.flatMap fun q => padded q ++ ['|'] := by
      simp [padded]
    rw [hpart, cellsFrom_mark, ih, List.flatMap_cons, List.append_assoc]
    rfl

theorem cellsOf_row {p : String} {rest : List String} :
    cellsOf (row (p :: rest)) =
      "" :: (((p :: rest).flatMap fun q => (cellsFrom '|' (padded q)).map String.ofList) ++
        [""]) := by
  rw [cellsOf, toList_row, cellsFrom, if_pos (by decide), cellsFrom_parts, List.map_cons,
    List.map_append, List.map_flatMap]
  rfl

theorem length_eq_one_of_flatMap {α β : Type} {f : α → List β} {xs : List α}
    (hpos : ∀ x, 1 ≤ (f x).length) (h : (xs.flatMap f).length = xs.length) :
    ∀ x ∈ xs, (f x).length = 1 := by
  have hle (ys : List α) : ys.length ≤ (ys.flatMap f).length := by
    induction ys with
    | nil => simp
    | cons y ys ih =>
      rw [List.flatMap_cons, List.length_append, List.length_cons]
      have hy := hpos y
      omega
  intro x hx
  obtain ⟨a, b, rfl⟩ := List.append_of_mem hx
  have ha := hle a
  have hb := hle b
  have hone := hpos x
  simp only [List.flatMap_append, List.flatMap_cons, List.length_append, List.length_cons] at h
  omega

/-! ## Rows -/

/-- What the row of an issue tells: its priority, its kind, its severity, its title, its file and
its line. -/
def issueCells (i : Issue) (n : Nat) : List String :=
  [toString n, s!"{i.kind.icon} {i.kind.name}", i.severity.name, i.title, s!"`{i.file}`",
    match i.shownLine with
    | some l => toString l
    | none => "-"]

theorem issueRow_eq (i : Issue) (n : Nat) : issueRow i n = row (issueCells i n) := rfl

/-- A line is the row of an issue: six cells between the marks, and nothing outside of them. -/
def IsRowOf (i : Issue) (n : Nat) (line : String) : Prop :=
  cellsOf line = "" :: ((issueCells i n).map (fun c => " " ++ c ++ " ") ++ [""])

/-- A text that does not break the table that it stands in. -/
structure FitsCell (s : String) : Prop where
  oneLine : Text.IsOneLine s
  escaped : IsEscaped s.toList

theorem fitsCell_of_all {s : String}
    (h : (s.toList.all fun c => c != '\n' && c != '\r' && c != '|') = true) : FitsCell s := by
  have hne : ∀ c ∈ s.toList, (c ≠ '\n' ∧ c ≠ '\r') ∧ c ≠ '|' := by simpa using h
  refine ⟨⟨fun hc => (hne _ hc).1.1 rfl, fun hc => (hne _ hc).1.2 rfl⟩, fun u v hs => ?_⟩
  exact absurd rfl (hne '|' (by rw [hs]; simp)).2

theorem fitsCell_quoted_iff {s : String} : FitsCell s!"`{s}`" ↔ FitsCell s := by
  have htext : (s!"`{s}`").toList = '`' :: (s.toList ++ ['`']) := by
    rw [String.toList_append, String.toList_append]
    rfl
  have hescaped : IsEscaped (s!"`{s}`").toList ↔ IsEscaped s.toList := by
    rw [htext]
    exact isEscaped_enclosed (by decide) (by decide)
  have hline : Text.IsOneLine s!"`{s}`" ↔ Text.IsOneLine s := by
    unfold Text.IsOneLine
    rw [htext]
    simp
  exact ⟨fun h => ⟨hline.mp h.oneLine, hescaped.mp h.escaped⟩,
    fun h => ⟨hline.mpr h.oneLine, hescaped.mpr h.escaped⟩⟩

theorem oneLine_row_iff {p : String} {rest : List String} :
    Text.IsOneLine (row (p :: rest)) ↔ ∀ q ∈ p :: rest, Text.IsOneLine q := by
  have hmem {c : Char} (hmark : c ≠ '|') (hblank : c ≠ ' ') :
      c ∈ (row (p :: rest)).toList ↔ ∃ q ∈ p :: rest, c ∈ q.toList := by
    rw [toList_row, List.mem_cons, List.mem_flatMap]
    simp [hmark, hblank, padded]
  unfold Text.IsOneLine
  rw [hmem (by decide) (by decide), hmem (by decide) (by decide)]
  simp only [not_exists, not_and, ← forall_and]

/-- The row of cells has those cells exactly if every mark in them is escaped. -/
theorem cellsOf_row_iff {p : String} {rest : List String} :
    cellsOf (row (p :: rest)) =
        "" :: ((p :: rest).map (fun c => " " ++ c ++ " ") ++ [""]) ↔
      ∀ q ∈ p :: rest, IsEscaped q.toList := by
  rw [cellsOf_row, List.cons_inj_right, List.append_left_inj]
  constructor
  · intro h
    have hlength := congrArg List.length h
    rw [List.length_map] at hlength
    have hone := length_eq_one_of_flatMap (fun q => by
      rw [List.length_map]
      exact List.length_pos_iff.mpr (cellsFrom_ne_nil '|' (padded q))) hlength
    intro q hq
    have hq := hone q hq
    rw [List.length_map] at hq
    exact escaped_padded_iff.mp (escaped_of_length_cellsFrom hq)
  · intro h
    rw [List.map_eq_flatMap]
    refine List.flatMap_congr fun q hq => ?_
    rw [cellsFrom_escaped (escaped_padded_iff.mpr (h q hq)), List.map_singleton]
    congr 1
    apply String.toList_injective
    simp [padded]

/-- A list of rows has one line for each issue, its row, exactly if every text in them fits. -/
theorem rows_iff {numbered : List (Issue × Nat)} :
    List.Forall₂ (fun x line => IsRowOf x.1 x.2 line) numbered
        (numbered.flatMap fun x => Text.breakLines (issueRow x.1 x.2)) ↔
      ∀ x ∈ numbered, ∀ c ∈ issueCells x.1 x.2, FitsCell c := by
  have hrows (h : ∀ x ∈ numbered, Text.IsOneLine (issueRow x.1 x.2)) :
      List.Forall₂ (fun x line => IsRowOf x.1 x.2 line) numbered
          (numbered.flatMap fun x => Text.breakLines (issueRow x.1 x.2)) ↔
        ∀ x ∈ numbered, ∀ c ∈ issueCells x.1 x.2, IsEscaped c.toList := by
    rw [List.flatMap_congr fun x hx => Text.breakLines_eq_singleton (h x hx),
      ← List.map_eq_flatMap, List.forall₂_map_right_iff, List.forall₂_same]
    exact forall₂_congr fun x _ => cellsOf_row_iff
  constructor
  · intro h
    have hone := length_eq_one_of_flatMap (fun x : Issue × Nat =>
      Text.length_breakLines_pos (issueRow x.1 x.2)) h.length_eq.symm
    have hlines : ∀ x ∈ numbered, Text.IsOneLine (issueRow x.1 x.2) :=
      fun x hx => Text.isOneLine_of_length (hone x hx)
    intro x hx c hc
    exact ⟨oneLine_row_iff.mp (hlines x hx) c hc, (hrows hlines).mp h x hx c hc⟩
  · intro h
    have hlines : ∀ x ∈ numbered, Text.IsOneLine (issueRow x.1 x.2) :=
      fun x hx => oneLine_row_iff.mpr fun c hc => (h x hx c hc).oneLine
    exact (hrows hlines).mpr fun x hx c hc => (h x hx c hc).escaped

theorem int_fits (n : Int) : FitsCell (toString n) := by
  refine fitsCell_of_all (List.all_eq_true.mpr fun c hc => ?_)
  have hsign : c = '-' ∨ c.isDigit = true := by
    rw [Json.toString_eq] at hc
    split at hc
    · exact .inr (Json.isDigit_of_mem hc)
    · exact (List.mem_cons.mp hc).imp_right Json.isDigit_of_mem
  rcases hsign with rfl | hdigit
  · decide
  · have hne {d : Char} (hd : d.isDigit = false) : c ≠ d := (Json.ne_of_isDigit hdigit hd).symm
    simp [hne (d := '\n') rfl, hne (d := '\r') rfl, hne (d := '|') rfl]

theorem nat_fits (n : Nat) : FitsCell (toString n) :=
  int_fits n

/-- Only the title and the file of an issue may break its row. -/
theorem issueCells_fit_iff {i : Issue} {n : Nat} :
    (∀ c ∈ issueCells i n, FitsCell c) ↔ FitsCell i.title ∧ FitsCell i.file := by
  have hkind : FitsCell s!"{i.kind.icon} {i.kind.name}" := by
    apply fitsCell_of_all
    cases i.kind <;> decide
  have hseverity : FitsCell i.severity.name := by
    apply fitsCell_of_all
    cases i.severity <;> decide
  have hline : FitsCell (match i.shownLine with
      | some l => toString l
      | none => "-") := by
    cases i.shownLine with
    | some l => exact int_fits l
    | none => exact fitsCell_of_all (by decide)
  simp only [issueCells, List.forall_mem_cons, fitsCell_quoted_iff, nat_fits, hkind, hseverity,
    hline, List.not_mem_nil, false_imp_iff, implies_true, true_and, and_true]

/-! ## The document -/

/-- The lines before the table. -/
def frontLines (r : Report) : List String :=
  summaryLines r ++ breakdownLines r.summary ++ metricLines r.metrics ++ kindSections r ++
    recommendationLines r

/-- The document before the table. -/
def frontOf (r : Report) : String :=
  Text.join "\n" (frontLines r)

/-- The document ends with the table: behind what comes before it are its heading and its header,
then one row for each issue, in order and numbered, and nothing else. -/
def HasTable (r : Report) : Prop :=
  ∃ rows, Text.breakLines r.markdown = Text.breakLines (frontOf r) ++
      (["## 📋 All Issues", "", "| Priority | Type | Severity | Title | File | Line |",
        "|----------|------|----------|-------|------|------|"] ++ (rows ++ [""])) ∧
    List.Forall₂ (fun x line => IsRowOf x.1 x.2 line) (r.issues.zipIdx 1) rows

/-- Lines that end with an empty one, if there are any. -/
def IsClosed (lines : List String) : Prop :=
  ∀ l ∈ lines.getLast?, l = ""

theorem IsClosed.append {a b : List String} (ha : IsClosed a) (hb : IsClosed b) :
    IsClosed (a ++ b) := by
  intro l hl
  rw [List.getLast?_append] at hl
  cases hlast : b.getLast? with
  | none =>
    rw [hlast] at hl
    exact ha l hl
  | some l' =>
    rw [hlast] at hl
    exact hb l (by rw [hlast]; exact hl)

theorem IsClosed.of_last {lines : List String} (h : lines.getLast? = some "") : IsClosed lines := by
  intro l hl
  rw [h] at hl
  exact (Option.some.inj hl).symm

theorem IsClosed.flatMap {α : Type} {f : α → List String} (h : ∀ x, IsClosed (f x))
    (xs : List α) : IsClosed (xs.flatMap f) := by
  induction xs with
  | nil => nofun
  | cons x xs ih => exact (h x).append ih

theorem kindLines_closed (r : Report) (k : IssueKind) : IsClosed (kindLines r k) := by
  have hissues : ∀ i, IsClosed (issueLines i) := fun i => .of_last rfl
  refine .append (.append (.of_last rfl) (.flatMap hissues _)) ?_
  split
  · exact .of_last rfl
  · nofun

theorem kindSections_closed (r : Report) : IsClosed (kindSections r) := by
  unfold kindSections
  split
  · nofun
  · exact .append (.of_last rfl) (.flatMap (kindLines_closed r) _)

theorem recommendationLines_closed (r : Report) : IsClosed (recommendationLines r) := by
  unfold recommendationLines
  split
  · nofun
  · exact .of_last List.getLast?_concat

theorem frontLines_closed (r : Report) : IsClosed (frontLines r) :=
  .append (.append (.append (.append (.of_last rfl) (.of_last rfl)) (.of_last rfl))
    (kindSections_closed r)) (recommendationLines_closed r)

/-- Lines that end with an empty one end with a newline. -/
theorem IsClosed.getLast?_join {first second : String} {rest : List String}
    (h : IsClosed (first :: second :: rest)) :
    (Text.join "\n" (first :: second :: rest)).toList.getLast? = some '\n' := by
  obtain ⟨before, last, hlines⟩ := (List.eq_nil_or_concat' (second :: rest)).resolve_left
    (List.cons_ne_nil second rest)
  rw [hlines] at h ⊢
  rw [← List.cons_append] at h
  obtain rfl : last = "" := h last List.getLast?_concat
  rw [show (Text.join "\n" (first :: (before ++ [""]))).toList = _ from
    Text.toList_join_cons '\n' first _]
  simp

theorem frontOf_last (r : Report) : (frontOf r).toList.getLast? = some '\n' :=
  (frontLines_closed r).getLast?_join

theorem issueTable_eq {r : Report} (h : r.issues ≠ []) :
    issueTable r = ["## 📋 All Issues", ""] ++ tableHeader ++
      ((r.issues.zipIdx 1).map fun x => issueRow x.1 x.2) ++ [""] := by
  obtain ⟨i, rest, hissues⟩ := List.exists_cons_of_ne_nil h
  rw [issueTable, hissues]

theorem markdown_eq (r : Report) :
    r.markdown = Text.join "\n" (frontOf r :: issueTable r) :=
  Text.join_append '\n' _ _ (issueTable r)

theorem issueRow_last (i : Issue) (n : Nat) : (issueRow i n).toList.getLast? = some '|' := by
  rw [issueRow_eq, row, String.toList_append]
  exact List.getLast?_append_cons _ ' ' ['|']

/-- The lines of the document, row by row. -/
theorem breakLines_markdown {r : Report} (h : r.issues ≠ []) :
    Text.breakLines r.markdown = Text.breakLines (frontOf r) ++
      (["## 📋 All Issues", ""] ++ tableHeader ++
        (((r.issues.zipIdx 1).flatMap fun x => Text.breakLines (issueRow x.1 x.2)) ++ [""])) := by
  have hheading : ∀ l ∈ ["## 📋 All Issues", ""] ++ tableHeader, Text.IsOneLine l := by decide
  have hends : ∀ l ∈ frontOf r :: issueTable r, ∀ c ∈ l.toList.getLast?, c ≠ '\r' := by
    intro l hl c hc
    rw [issueTable_eq h, List.mem_cons, List.mem_append, List.mem_append] at hl
    rcases hl with rfl | (hl | hl) | hl
    · rw [frontOf_last] at hc
      obtain rfl := Option.some.inj hc
      decide
    · rintro rfl
      exact (hheading l hl).2 (List.mem_of_getLast? hc)
    · obtain ⟨x, _, rfl⟩ := List.mem_map.mp hl
      rw [issueRow_last] at hc
      obtain rfl := Option.some.inj hc
      decide
    · rw [List.mem_singleton.mp hl] at hc
      cases hc
  rw [markdown_eq, show "\n" = String.singleton '\n' from rfl, Text.breakLines_join hends,
    List.flatMap_cons, issueTable_eq h, List.flatMap_append, List.flatMap_append, List.flatMap_map,
    List.flatMap_congr fun l hl => Text.breakLines_eq_singleton (hheading l hl),
    ← List.map_eq_flatMap, List.map_id', List.append_assoc]
  rfl

theorem hasTable_iff_rows {r : Report} (h : r.issues ≠ []) :
    HasTable r ↔ List.Forall₂ (fun x line => IsRowOf x.1 x.2 line) (r.issues.zipIdx 1)
      ((r.issues.zipIdx 1).flatMap fun x => Text.breakLines (issueRow x.1 x.2)) := by
  constructor
  · rintro ⟨rows, hlines, htold⟩
    rw [breakLines_markdown h, List.append_right_inj] at hlines
    have hsame := List.append_cancel_left hlines
    rwa [List.append_cancel_right hsame]
  · exact fun htold => ⟨_, breakLines_markdown h, htold⟩

/-- A report of one issue, with a given title. -/
def titled (title : String) : Report where
  summary := ⟨1, 1, ["javascript"], 1, [("critical", 0), ("high", 0), ("medium", 1), ("low", 0)]⟩
  issues := [⟨"i", .security, .medium, title, "", "a.js", some 7, "", "", .low⟩]
  metrics := ⟨0, 0, 0, 100⟩
  recommendations := []
  timestamp := ""

end Markdown

end Assay
