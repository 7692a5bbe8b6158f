import Assay.Proofs.Json.Message
import Assay.Proofs.Outcome
import Assay.Proofs.Review.RoundTrip
import Assay.Proofs.Text.Numeral
import Assay.Proofs.Text.Trim

/-!
# What a reply amounts to

A reply holds no array, or an array that cannot be read, or issues. Whatever it says, its issues are
fit for a report.

* `IsSpan`: the part of a text from its first opening to its last closing bracket;
* `arraySpan?_cases`, `arraySpan?_eq_some_iff`: there is such a part exactly if a bracket opens
  before one closes;
* `read_bracket`, `IsSpan.read`: what opens with a bracket is read as an array or not at all;
* `ofReply_cases`: all that a reply can come to;
* `ofReply_problem_iff`: a problem is what the reader says of such a part;
* `Reading`: what each field of an issue has to do with the object it is read from;
* `Readings`: one issue for every object of an array, in order;
* `ofReply_classifies`: all this of every reply that is read.
-/

namespace Assay

namespace Review

/-! ## The array in a reply -/

/-- A bracket opens before one closes. -/
def Bracketed (s : List Char) : Prop :=
  ∃ i j : Nat, i < j ∧ s[i]? = some '[' ∧ s[j]? = some ']'

/-- The part of a text from its first opening to its last closing bracket. -/
structure IsSpan (s span : List Char) : Prop where
  cut : ∃ before after, s = before ++ span ++ after ∧ '[' ∉ before ∧ ']' ∉ after
  opens : span.head? = some '['
  closes : span.getLast? = some ']'

theorem IsSpan.exists_inner {s span : List Char} (h : IsSpan s span) :
    ∃ inner, span = '[' :: inner ++ [']'] := by
  obtain ⟨rest, rfl⟩ := List.head?_eq_some_iff.mp h.opens
  obtain ⟨front, hfront⟩ := List.getLast?_eq_some_iff.mp h.closes
  cases front with
  | nil => cases hfront
  | cons c front =>
    rw [List.cons_append, List.cons.injEq] at hfront
    exact ⟨front, by rw [hfront.2, List.cons_append]⟩

theorem IsSpan.bracketed {s span : List Char} (h : IsSpan s span) : Bracketed s := by
  obtain ⟨inner, rfl⟩ := h.exists_inner
  obtain ⟨before, after, rfl, _⟩ := h.cut
  refine ⟨before.length, before.length + (inner.length + 1), by omega, ?_, ?_⟩
  · simp
  · simp

theorem exists_before (c : Char) (s : List Char) :
    ∃ before, s = before ++ s.dropWhile (· != c) ∧ c ∉ before := by
  refine ⟨s.takeWhile (· != c), List.takeWhile_append_dropWhile.symm, fun hc => ?_⟩
  simpa using List.mem_takeWhile_imp hc

theorem head?_dropWhile_ne {c d : Char} {s : List Char}
    (h : (s.dropWhile (· != c)).head? = some d) : d = c := by
  have hnot := List.head?_dropWhile_not (· != c) s
  rw [h] at hnot
  simpa using hnot

/-- Where no span is found, no bracket opens before one closes. -/
theorem not_bracketed {before after : List Char} (hbefore : '[' ∉ before) (hafter : ']' ∉ after) :
    ¬ Bracketed (before ++ after) := by
  rintro ⟨i, j, hij, hi, hj⟩
  have hopen : before.length ≤ i := by
    by_contra hlt
    rw [List.getElem?_append_left (Nat.lt_of_not_le hlt)] at hi
    exact hbefore (List.mem_of_getElem? hi)
  rw [List.getElem?_append_right (by omega)] at hj
  exact hafter (List.mem_of_getElem? hj)

theorem arraySpan?_cases (s : List Char) :
    (arraySpan? s = none ∧ ¬ Bracketed s) ∨ ∃ span, arraySpan? s = some span ∧ IsSpan s span := by
  obtain ⟨before, hs, hbefore⟩ := exists_before '[' s
  obtain ⟨after, hrest, hafter⟩ := exists_before ']' (s.dropWhile (· != '[')).reverse
  have hcut : s.dropWhile (· != '[') =
      ((s.dropWhile (· != '[')).reverse.dropWhile (· != ']')).reverse ++ after.reverse := by
    rw [← List.reverse_append, ← hrest, List.reverse_reverse]
  have hafter : ']' ∉ after.reverse := by simpa using hafter
  unfold arraySpan?
  split
  · rename_i hnil
    refine Or.inl ⟨rfl, ?_⟩
    rw [hnil, List.nil_append] at hcut
    rw [hs, hcut]
    exact not_bracketed hbefore hafter
  · rename_i c rest hspan
    refine Or.inr ⟨_, rfl, ⟨before, after.reverse, ?_, hbefore, hafter⟩, ?_, ?_⟩
    · rw [List.append_assoc, ← hspan, ← hcut]
      exact hs
    · have hhead : (s.dropWhile (· != '[')).head? = some c := by
        rw [hcut, hspan]
        rfl
      rw [List.head?_cons, head?_dropWhile_ne hhead]
    · rw [← hspan, List.getLast?_reverse]
      have hlast : ∃ d, ((s.dropWhile (· != '[')).reverse.dropWhile (· != ']')).head? = some d := by
        rw [← List.getLast?_reverse, hspan]
        exact ⟨_, List.getLast?_cons⟩
      obtain ⟨d, hd⟩ := hlast
      rw [hd, head?_dropWhile_ne hd]

theorem arraySpan?_eq_some_iff {s span : List Char} : arraySpan? s = some span ↔ IsSpan s span := by
  constructor
  · intro h
    rcases arraySpan?_cases s with ⟨hnone, _⟩ | ⟨_, hsome, hspan⟩
    · rw [hnone] at h
      cases h
    · rw [hsome, Option.some.injEq] at h
      exact h ▸ hspan
  · intro h
    obtain ⟨inner, rfl⟩ := h.exists_inner
    obtain ⟨before, after, rfl, hbefore, hafter⟩ := h.cut
    exact arraySpan?_surrounded hbefore hafter inner

/-- A text has one such part. -/
theorem IsSpan.unique {s span span' : List Char} (h : IsSpan s span) (h' : IsSpan s span') :
    span = span' := by
  rw [← arraySpan?_eq_some_iff] at h h'
  exact Option.some.inj (h.symm.trans h')

/-! ## What opens with a bracket -/

theorem readItems_arr {fuel depth : Nat} {s rest : List Char} {acc : List Json} {v : Json}
    (h : Json.readItems fuel depth s acc = .ok (v, rest)) : ∃ items, v = .arr items := by
  induction fuel generalizing s acc with
  | zero => simp [Json.readItems] at h
  | succ fuel ih =>
    rw [Json.readItems] at h
    split at h
    · cases h
    · split at h
      · cases h
        exact ⟨_, rfl⟩
      · exact ih h
      · cases h

theorem readValue_bracket {fuel depth : Nat} {s rest : List Char} {v : Json}
    (h : Json.readValue fuel depth ('[' :: s) = .ok (v, rest)) : ∃ items, v = .arr items := by
  cases fuel with
  | zero => simp [Json.readValue] at h
  | succ fuel =>
    simp only [Json.readValue] at h
    split at h
    · cases h
    · split at h
      · cases h
        exact ⟨[], rfl⟩
      · exact readItems_arr h

/-- What opens with a bracket is read as an array or not at all. -/
theorem read_bracket {s : List Char} {v : Json} (h : Json.read ('[' :: s) = .ok v) :
    ∃ items, v = .arr items := by
  have hdocument : Json.readDocument ('[' :: s) = .ok v := by
    unfold Json.read at h
    cases hd : Json.readDocument ('[' :: s) with
    | error e => simp [hd, Except.mapError] at h
    | ok w => simpa [hd, Except.mapError] using h
  unfold Json.readDocument at hdocument
  split at hdocument
  · cases hdocument
  · rename_i w rest hvalue
    have harr := readValue_bracket hvalue
    split at hdocument
    · cases hdocument
      exact harr
    · cases hdocument

theorem IsSpan.read {s span : List Char} {v : Json} (h : IsSpan s span)
    (hv : Json.read span = .ok v) : ∃ items, v = .arr items := by
  obtain ⟨inner, rfl⟩ := h.exists_inner
  exact read_bracket (s := inner ++ [']']) hv

/-- All that a reply can come to. -/
theorem ofReply_cases (paths : List String) (idOf : Nat → String) (first : Nat)
    (reply : Option String) :
    (¬ Bracketed (reply.getD "").toList ∧ ParseOutcome.ofReply paths idOf first reply = .ok {}) ∨
    ∃ span, IsSpan (reply.getD "").toList span ∧
      ((∃ e, Json.read span = .error e ∧ ParseOutcome.ofReply paths idOf first reply =
          .ok { foundArray := true, problem := some e.message }) ∨
        ∃ items, Json.read span = .ok (.arr items) ∧ ParseOutcome.ofReply paths idOf first reply =
          issuesOf paths idOf first (objectsOf items) >>= fun issues =>
            .ok { issues, foundArray := true }) := by
  rcases arraySpan?_cases (reply.getD "").toList with ⟨hnone, hs⟩ | ⟨span, hsome, hspan⟩
  · exact .inl ⟨hs, by simp only [ParseOutcome.ofReply, hnone]⟩
  · refine .inr ⟨span, hspan, ?_⟩
    simp only [ParseOutcome.ofReply, hsome]
    cases hread : Json.read span with
    | error e => exact .inl ⟨e, rfl, rfl⟩
    | ok v =>
      obtain ⟨items, rfl⟩ := hspan.read hread
      exact .inr ⟨items, rfl, rfl⟩

/-- A problem is what the reader says of the array in a reply. -/
theorem ofReply_problem_iff {paths : List String} {idOf : Nat → String} {first : Nat}
    {reply : Option String} {o : ParseOutcome} {problem : String}
    (h : ParseOutcome.ofReply paths idOf first reply = .ok o) :
    o.problem = some problem ↔ ∃ span e, IsSpan (reply.getD "").toList span ∧
      Json.read span = .error e ∧ e.message = problem := by
  rcases ofReply_cases paths idOf first reply with
    ⟨hnone, ho⟩ | ⟨span, hspan, ⟨e, hread, ho⟩ | ⟨items, hread, ho⟩⟩
  · obtain rfl := Except.ok.inj (h.symm.trans ho)
    refine iff_of_false nofun ?_
    rintro ⟨span, _, hspan, _⟩
    exact hnone hspan.bracketed
  · obtain rfl := Except.ok.inj (h.symm.trans ho)
    constructor
    · rintro ⟨⟩
      exact ⟨span, e, hspan, hread, rfl⟩
    · rintro ⟨span', e', hspan', hread', rfl⟩
      rw [hspan'.unique hspan, hread, Except.error.injEq] at hread'
      rw [hread']
  · obtain ⟨issues, _, hmade⟩ := bind_eq_ok.mp (ho.symm.trans h)
    obtain rfl := Except.ok.inj hmade
    refine iff_of_false nofun ?_
    rintro ⟨span', e, hspan', hread', _⟩
    rw [hspan'.unique hspan, hread] at hread'
    cases hread'

/-- So it always says something. -/
theorem ofReply_problem_filter {paths : List String} {idOf : Nat → String} {first : Nat}
    {reply : Option String} {o : ParseOutcome}
    (h : ParseOutcome.ofReply paths idOf first reply = .ok o) :
    o.problem.filter (· != "") = o.problem := by
  cases hproblem : o.problem with
  | none => rfl
  | some problem =>
    obtain ⟨_, e, _, _, rfl⟩ := (ofReply_problem_iff h).mp hproblem
    simp [e.message_ne_empty]

/-! ## Fields -/

/-- A text with something to say and no blanks at its ends. -/
structure Neat (t : String) : Prop where
  nonempty : t ≠ ""
  first : ∀ c ∈ t.toList.head?, Text.isBlank c = false
  last : ∀ c ∈ t.toList.getLast?, Text.isBlank c = false

theorem Neat.of_all {t : String} (hne : t ≠ "")
    (hfirst : t.toList.head?.all (fun c => !Text.isBlank c) = true)
    (hlast : t.toList.getLast?.all (fun c => !Text.isBlank c) = true) : Neat t := by
  rw [Option.all_eq_true] at hfirst hlast
  exact ⟨hne, fun c hc => by simpa using hfirst c hc, fun c hc => by simpa using hlast c hc⟩

/-- A text as it is read: without the blanks around it, or a default where nothing else is given. -/
inductive ReadsText (default : String) (v : Json) : String → Prop
  | given {s t : String} (hv : v = .str s) (ht : Text.Trims s.toList t.toList) (hne : t ≠ "") :
      ReadsText default v t
  | absent (hv : ∀ s, v = .str s → ∀ c ∈ s.toList, Text.isBlank c = true) :
      ReadsText default v default

/-- A member of a vocabulary as it is read: the one whose name is spelt, or a default where none
is. -/
inductive ReadsMember {α : Type} (name : α → String) (default : α) (v : Json) : α → Prop
  | named {s : String} {a : α} (hv : v = .str s) (ha : Text.Spells s (name a)) :
      ReadsMember name default v a
  | absent (hv : ∀ s a, v = .str s → ¬ Text.Spells s (name a)) : ReadsMember name default v default

/-- The number of a line: an integer from one on, or a text of its digits. -/
inductive GivesLine : Json → Int → Prop
  | number {n : Int} (h : 1 ≤ n) : GivesLine (.int n) n
  | digits {s : String} {ds : List Char} (hs : Text.Trims s.toList ds) (hne : ds ≠ [])
      (hdecimal : ∀ c ∈ ds, Text.isDecimal c = true)
      (h : 1 ≤ Text.ofDigits (ds.filterMap Text.decimalValue?)) :
      GivesLine (.str s) (Text.ofDigits (ds.filterMap Text.decimalValue?))

theorem ReadsText.neat {default t : String} {v : Json} (h : ReadsText default v t)
    (hdefault : Neat default) : Neat t := by
  cases h with
  | given _ ht hne => exact ⟨hne, ht.first, ht.last⟩
  | absent _ => exact hdefault

theorem textOr_reads (default : String) (v : Json) : ReadsText default v (textOr default v) := by
  cases v with
  | str s =>
    have htrims := Text.trims_strip s.toList
    by_cases hnil : Text.strip s.toList = []
    · have hread : textOr default (.str s) = default := by
        simp [textOr, Json.asString?, Text.trimmed, hnil]
      obtain ⟨before, after, hs, hbefore, hafter⟩ := htrims.cut
      rw [hread]
      refine .absent fun _ hv c hc => ?_
      obtain rfl := Json.str.inj hv
      rw [hs, hnil, List.append_nil] at hc
      exact (List.mem_append.mp hc).elim (hbefore c) (hafter c)
    · have hread : textOr default (.str s) = String.ofList (Text.strip s.toList) := by
        simp [textOr, Json.asString?, Text.trimmed, hnil]
      rw [hread]
      refine .given rfl ?_ ?_
      · rwa [String.toList_ofList]
      · simpa using hnil
  | null | bool | int | real | arr | obj => exact .absent fun _ hv => by cases hv

theorem memberOr_reads {α : Type} {ofName? : String → Option α} {name : α → String}
    (hof : ∀ s a, ofName? s = some a ↔ name a = s)
    (hname : ∀ a, (name a).toList.all (fun c => Text.IsOwnCase c) = true) (default : α) (v : Json) :
    ReadsMember name default v (memberOr ofName? default v) := by
  have hcase (a : α) : ∀ c ∈ (name a).toList, Text.IsOwnCase c := fun c hc =>
    of_decide_eq_true (List.all_eq_true.mp (hname a) c hc)
  cases v with
  | str s =>
    simp only [memberOr, Json.asString?, Option.bind_some]
    cases ha : ofName? (String.ofList (Text.lower (Text.strip s.toList))) with
    | some a =>
      exact .named rfl ((Text.spells_iff (hcase a)).mpr ((hof _ a).mp ha).symm)
    | none =>
      refine .absent fun _ b hv hb => ?_
      obtain rfl := Json.str.inj hv
      rw [(hof _ b).mpr ((Text.spells_iff (hcase b)).mp hb).symm] at ha
      cases ha
  | null | bool | int | real | arr | obj => exact .absent fun _ _ hv => by cases hv

theorem find?_name {α : Type} {all : List α} {name : α → String}
    (hall : ∀ a, (all.find? fun b => name b == name a) = some a) (s : String) (a : α) :
    (all.find? fun b => name b == s) = some a ↔ name a = s := by
  constructor
  · intro h
    simpa using List.find?_some h
  · rintro rfl
    exact hall a

theorem memberOr_reads_kind (v : Json) : ReadsMember IssueKind.name .maintainability v
    (memberOr IssueKind.ofName? .maintainability v) :=
  memberOr_reads (find?_name fun k => by cases k <;> decide) (fun k => by cases k <;> decide) _ v

theorem memberOr_reads_severity (v : Json) : ReadsMember Severity.name .medium v
    (memberOr Severity.ofName? .medium v) :=
  memberOr_reads (find?_name fun k => by cases k <;> decide) (fun k => by cases k <;> decide) _ v

theorem memberOr_reads_effort (v : Json) : ReadsMember Effort.name .medium v
    (memberOr Effort.ofName? .medium v) :=
  memberOr_reads (find?_name fun k => by cases k <;> decide) (fun k => by cases k <;> decide) _ v

theorem positive_eq_some_iff {m n : Int} : positive m = some n ↔ m = n ∧ 1 ≤ n := by
  unfold positive
  split
  · rename_i h
    simp only [Option.some.injEq]
    exact ⟨fun he => ⟨he, he ▸ h⟩, And.left⟩
  · rename_i h
    simp only [reduceCtorEq, false_iff]
    rintro ⟨rfl, hn⟩
    exact h hn

/-- The line that a text gives is the number that it spells without the blanks around it. -/
theorem givesLine_str_iff {s : String} {n : Int} : GivesLine (.str s) n ↔
    Text.strip s.toList ≠ [] ∧ (∀ c ∈ Text.strip s.toList, Text.isDecimal c = true) ∧
      (Text.ofDigits ((Text.strip s.toList).filterMap Text.decimalValue?) : Int) = n ∧ 1 ≤ n := by
  constructor
  · intro hn
    cases hn with
    | digits hs hne hdecimal h =>
      obtain rfl := hs.strip_eq
      exact ⟨hne, hdecimal, rfl, by exact_mod_cast h⟩
  · rintro ⟨hne, hdecimal, rfl, h⟩
    exact .digits (Text.trims_strip s.toList) hne hdecimal (by exact_mod_cast h)

theorem lineOf_gives {v : Json} {line : Option Int} (h : lineOf v = .ok line) (n : Int) :
    line = some n ↔ GivesLine v n := by
  cases v with
  | int m =>
    obtain rfl := Except.ok.inj h
    rw [positive_eq_some_iff]
    constructor
    · rintro ⟨rfl, hm⟩
      exact .number hm
    · rintro ⟨hm⟩
      exact ⟨rfl, hm⟩
  | str s =>
    rw [givesLine_str_iff]
    simp only [lineOf] at h
    split at h
    · rename_i hnone
      obtain rfl := Except.ok.inj h
      refine iff_of_false (by simp) ?_
      rintro ⟨hne, hdecimal, _⟩
      have hall : (Text.strip s.toList).all Text.isNumeral = true :=
        List.all_eq_true.mpr fun c hc => Text.isNumeral_of_isDecimal (hdecimal c hc)
      simp [hne, hall] at hnone
    · rename_i hsome
      simp only [Bool.or_eq_true, not_or, Bool.not_eq_true, Bool.not_eq_false',
        List.isEmpty_eq_false_iff, List.all_eq_true] at hsome
      split at h
      · rename_i m hm
        obtain rfl := Except.ok.inj h
        obtain ⟨hdecimal, rfl⟩ := Text.readInt_decimals hsome.1 hsome.2 hm
        rw [positive_eq_some_iff]
        exact ⟨fun hn => ⟨hsome.1, hdecimal, hn⟩, fun hn => hn.2.2⟩
      · cases h
  | null | bool | real | arr | obj =>
    obtain rfl := Except.ok.inj h
    exact iff_of_false (by simp) fun hn => by cases hn

theorem fileOf_named {paths : List String} {f : String} (h : f ∈ paths) :
    fileOf paths (.str f) = f := by
  simp [fileOf, Json.asString?, h]

theorem fileOf_unnamed {paths : List String} {v : Json} (hpaths : paths ≠ [])
    (h : ∀ f ∈ paths, v ≠ .str f) : paths.head? = some (fileOf paths v) := by
  obtain ⟨p, rest, rfl⟩ := List.exists_cons_of_ne_nil hpaths
  cases v with
  | str f =>
    have hf : f ∉ p :: rest := fun hf => h f hf rfl
    simp [fileOf, Json.asString?, hf]
  | null | bool | int | real | arr | obj => rfl

/-! ## Issues -/

/-- An issue as it is read from an object, with an id of its own. -/
structure Reading (paths : List String) (id : String) (o : Json) (i : Issue) : Prop where
  id : i.id = id
  kind : ReadsMember IssueKind.name .maintainability (o.field "type") i.kind
  severity : ReadsMember Severity.name .medium (o.field "severity") i.severity
  effort : ReadsMember Effort.name .medium (o.field "effort") i.effort
  title : ReadsText "Code Quality Issue" (o.field "title") i.title
  description : ReadsText "Issue detected by AI analysis" (o.field "description") i.description
  suggestion : ReadsText "Review and improve this code" (o.field "suggestion") i.suggestion
  impact : ReadsText "May affect code quality" (o.field "impact") i.impact
  neat : ∀ t ∈ [i.title, i.description, i.suggestion, i.impact], Neat t
  /-- The file is one at hand: the one that is named, or else the first. -/
  file : i.file ∈ paths
  named : ∀ f ∈ paths, o.field "file" = .str f → i.file = f
  unnamed : (∀ f ∈ paths, o.field "file" ≠ .str f) → paths.head? = some i.file
  line : ∀ n, i.line = some n ↔ GivesLine (o.field "line") n
  positive : ∀ n, i.line = some n → 1 ≤ n

theorem GivesLine.positive {v : Json} {n : Int} (h : GivesLine v n) : 1 ≤ n := by
  cases h with
  | number h => exact h
  | digits _ _ _ h => exact_mod_cast h

theorem neat_defaults : ∀ t ∈ ["Code Quality Issue", "Issue detected by AI analysis",
    "Review and improve this code", "May affect code quality"], Neat t := by
  intro t ht
  simp only [List.mem_cons, List.not_mem_nil, or_false] at ht
  rcases ht with rfl | rfl | rfl | rfl
  all_goals exact .of_all (by decide) (by decide) (by decide)

theorem issueOf_reading {paths : List String} {id : String} {o : Json} {i : Issue}
    (hpaths : paths ≠ []) (h : issueOf paths id o = .ok i) : Reading paths id o i := by
  obtain ⟨line, hline, hi⟩ := bind_eq_ok.mp h
  obtain rfl := Except.ok.inj hi
  have hneat {default t : String} {v : Json} (ht : ReadsText default v t)
      (hdefault : default ∈ ["Code Quality Issue", "Issue detected by AI analysis",
        "Review and improve this code", "May affect code quality"]) : Neat t :=
    ht.neat (neat_defaults _ hdefault)
  constructor
  case id => rfl
  case kind => exact memberOr_reads_kind _
  case severity => exact memberOr_reads_severity _
  case effort => exact memberOr_reads_effort _
  case title => exact textOr_reads _ _
  case description => exact textOr_reads _ _
  case suggestion => exact textOr_reads _ _
  case impact => exact textOr_reads _ _
  case neat =>
    simp only [List.forall_mem_cons, List.not_mem_nil, false_implies, implies_true, and_true]
    exact ⟨hneat (textOr_reads _ _) (by simp), hneat (textOr_reads _ _) (by simp),
      hneat (textOr_reads _ _) (by simp), hneat (textOr_reads _ _) (by simp)⟩
  case file =>
    by_cases hnamed : ∃ f ∈ paths, o.field "file" = .str f
    · obtain ⟨f, hf, hv⟩ := hnamed
      dsimp only
      rw [hv, fileOf_named hf]
      exact hf
    · exact List.mem_of_head? (fileOf_unnamed hpaths fun f hf hv => hnamed ⟨f, hf, hv⟩)
  case named =>
    intro f hf hv
    dsimp only
    rw [hv, fileOf_named hf]
  case unnamed => exact fileOf_unnamed hpaths
  case line => exact lineOf_gives hline
  case positive => exact fun n hn => ((lineOf_gives hline n).mp hn).positive

/-- The issues of an array: one for every object in it, in order, with ids that count on; what is no
object is passed over. -/
inductive Readings (paths : List String) (idOf : Nat → String) :
    Nat → List Json → List Issue → Prop
  | nil {n : Nat} : Readings paths idOf n [] []
  | object {n : Nat} {fields : List (String × Json)} {i : Issue} {items : List Json}
      {issues : List Issue} (hi : Reading paths (idOf n) (.obj fields) i)
      (h : Readings paths idOf (n + 1) items issues) :
      Readings paths idOf n (.obj fields :: items) (i :: issues)
  | other {n : Nat} {v : Json} {items : List Json} {issues : List Issue}
      (hv : ∀ fields, v ≠ .obj fields) (h : Readings paths idOf n items issues) :
      Readings paths idOf n (v :: items) issues

theorem issuesOf_readings {paths : List String} {idOf : Nat → String} {first : Nat}
    {items : List Json} {issues : List Issue} (hpaths : paths ≠ [])
    (h : issuesOf paths idOf first (objectsOf items) = .ok issues) :
    Readings paths idOf first items issues := by
  induction items generalizing first issues with
  | nil =>
    obtain rfl := Except.ok.inj h
    exact .nil
  | cons v items ih =>
    cases v with
    | obj fields =>
      obtain ⟨i, hi, hrest⟩ := bind_eq_ok.mp h
      obtain ⟨is, his, hcons⟩ := bind_eq_ok.mp hrest
      obtain rfl := Except.ok.inj hcons
      exact .object (issueOf_reading hpaths hi) (ih his)
    | null | bool | int | real | str | arr => exact .other nofun (ih h)

/-- What holds of the outcome of a reply. -/
structure ParseOutcome.Classifies (paths : List String) (idOf : Nat → String) (first : Nat)
    (reply : List Char) (o : ParseOutcome) : Prop where
  /-- There is no array exactly if no bracket opens before one closes, -/
  absent : o.foundArray = false ↔ ¬ Bracketed reply
  /-- and nothing comes of it then. -/
  empty : o.foundArray = false → o.issues = [] ∧ o.problem = none
  span : Bracketed reply → ∃ span, IsSpan reply span
  /-- There is a problem, and no issue, exactly if the array cannot be read; -/
  fault : ∀ span, IsSpan reply span →
    ((o.problem ≠ none ∧ o.issues = []) ↔ ∃ e, Json.read span = .error e)
  /-- otherwise there are the issues of its items. -/
  readings : ∀ span v, IsSpan reply span → Json.read span = .ok v →
    o.problem = none ∧ ∃ items, v = .arr items ∧ Readings paths idOf first items o.issues

/-- **What a reply amounts to.** A reply that is read holds no array, or one that cannot be read, or
one issue for every object of its array, with an id of its own, about a file at hand, in a line from
one on or in none, in texts that say something. -/
theorem ofReply_classifies {paths : List String} (hpaths : paths ≠ []) {idOf : Nat → String}
    {first : Nat} {reply : Option String} {o : ParseOutcome}
    (h : ParseOutcome.ofReply paths idOf first reply = .ok o) :
    o.Classifies paths idOf first (reply.getD "").toList := by
  have hfound {span : List Char} (hspan : IsSpan (reply.getD "").toList span)
      (ho : o.foundArray = true) : o.foundArray = false ↔ ¬ Bracketed (reply.getD "").toList :=
    iff_of_false (by simp [ho]) (not_not_intro hspan.bracketed)
  rcases ofReply_cases paths idOf first reply with
    ⟨hnone, ho⟩ | ⟨span, hspan, ⟨e, hread, ho⟩ | ⟨items, hread, ho⟩⟩
  · obtain rfl := Except.ok.inj (h.symm.trans ho)
    exact ⟨iff_of_true rfl hnone, fun _ => ⟨rfl, rfl⟩, fun hb => absurd hb hnone,
      fun span hs => absurd hs.bracketed hnone, fun span _ hs => absurd hs.bracketed hnone⟩
  · obtain rfl := Except.ok.inj (h.symm.trans ho)
    refine ⟨hfound hspan rfl, nofun, fun _ => ⟨span, hspan⟩, fun span' hs => ?_,
      fun span' v hs hv => ?_⟩
    · obtain rfl := hspan.unique hs
      exact iff_of_true ⟨nofun, rfl⟩ ⟨e, hread⟩
    · obtain rfl := hspan.unique hs
      rw [hread] at hv
      cases hv
  · obtain ⟨issues, hissues, hmade⟩ := bind_eq_ok.mp (ho.symm.trans h)
    obtain rfl := Except.ok.inj hmade
    refine ⟨hfound hspan rfl, nofun, fun _ => ⟨span, hspan⟩, fun span' hs => ?_,
      fun span' v hs hv => ?_⟩
    · obtain rfl := hspan.unique hs
      refine iff_of_false (fun hp => hp.1 rfl) ?_
      rintro ⟨e, he⟩
      rw [hread] at he
      cases he
    · obtain rfl := hspan.unique hs
      rw [hread, Except.ok.injEq] at hv
      exact ⟨rfl, items, hv.symm, issuesOf_readings hpaths hissues⟩

/-- An object among other items gives an issue; its kind is spelt in capitals with a blank, its file
is not at hand and its line is a text. -/
theorem ofReply_classifies_mixed :
    let reply := "See: [1, \x7b\x22type\x22: \x22 SECURITY\x22, " ++
      "\x22file\x22: \x22b.js\x22, \x22line\x22: \x227\x22\x7d]."
    let o : ParseOutcome :=
      { issues := [⟨"3", .security, .medium, "Code Quality Issue", "Issue detected by AI analysis",
          "a.js", some 7, "Review and improve this code", "May affect code quality", .medium⟩]
        foundArray := true }
    ["a.js"] ≠ [] ∧ ParseOutcome.ofReply ["a.js"] toString 3 (some reply) = .ok o ∧
      o.Classifies ["a.js"] toString 3 reply.toList := by
  intro reply o
  have ho : ParseOutcome.ofReply ["a.js"] toString 3 (some reply) = .ok o := by
    decide +kernel
  exact ⟨by decide, ho, ofReply_classifies (by decide) ho⟩

end Review

end Assay
