import Mathlib.Data.List.Perm.Subperm
import Assay.Conversation.Context
import Assay.Proofs.Report.Contract
import Assay.Proofs.Text.Length

/-!
# The context of a question

* `contextOf_answered`, `contextOf_unanswered`: a context can be told exactly if every turn it tells
  was answered with a text;
* `weight_summaryLines`, `weight_issueLines`, `weight_fileLines`, `weight_pastLines`: how long its
  parts can be;
* `contextOf_bounded`: a context is never longer than a constant.
-/

namespace Assay

open Text

/-! ## Which turns can be told -/

namespace Context

/-- The lines about a turn that was answered. -/
def answeredLines (t : Turn) : List String :=
  let answer := t.answer.getD ""
  [s!"Q: {clip t.question turnLimit}", s!"A: {clip answer turnLimit}", ""]

/-- The lines about the last turns, if all of them were answered. -/
def pastLines (history : List Turn) : List String :=
  if history.isEmpty then []
  else "Previous Conversation:" :: (lastTurns history).flatMap answeredLines

/-- The failure over a turn without an answer. -/
def unanswered : Failure :=
  .wrongType (.noLength "NoneType")

theorem mapM_answered {turns : List Turn} (h : ∀ t ∈ turns, t.answer.isSome) :
    turns.mapM turnLines = .ok (turns.map answeredLines) := by
  induction turns with
  | nil => rfl
  | cons t turns ih =>
    rw [List.forall_mem_cons] at h
    obtain ⟨answer, hanswer⟩ := Option.isSome_iff_exists.mp h.1
    have ht : turnLines t = .ok (answeredLines t) := by
      simp [turnLines, answeredLines, hanswer]
    rw [List.mapM_cons, ht, ok_bind, ih h.2, ok_bind]
    rfl

theorem mapM_unanswered {turns : List Turn} (h : ∃ t ∈ turns, t.answer = none) :
    turns.mapM turnLines = .error unanswered := by
  induction turns with
  | nil => simp at h
  | cons t turns ih =>
    rw [List.mapM_cons]
    cases hanswer : t.answer with
    | none =>
      have ht : turnLines t = .error unanswered := by simp [turnLines, hanswer, unanswered]
      rw [ht]
      rfl
    | some answer =>
      have ht : turnLines t = .ok (answeredLines t) := by
        simp [turnLines, answeredLines, hanswer]
      have hrest : ∃ u ∈ turns, u.answer = none := by
        obtain ⟨u, hu, hnone⟩ := h
        rcases List.mem_cons.mp hu with rfl | hu
        · rw [hanswer] at hnone
          cases hnone
        · exact ⟨u, hu, hnone⟩
      rw [ht, ok_bind, ih hrest]
      rfl

theorem historyLines_answered {history : List Turn}
    (h : ∀ t ∈ lastTurns history, t.answer.isSome) :
    historyLines history = .ok (pastLines history) := by
  unfold historyLines pastLines
  split
  · rfl
  · rw [mapM_answered h, ok_bind, List.flatMap_def]
    rfl

theorem historyLines_unanswered {history : List Turn}
    (h : ∃ t ∈ lastTurns history, t.answer = none) :
    historyLines history = .error unanswered := by
  have hne : history.isEmpty = false := by
    cases history with
    | nil => simp [lastTurns] at h
    | cons => rfl
  unfold historyLines
  rw [hne, if_neg Bool.false_ne_true, mapM_unanswered h]
  rfl

/-- The lines about the first issues. -/
def firstIssueLines (issues : List Issue) : List String :=
  ((issues.take topIssues).zipIdx 1).flatMap fun (i, n) => issueLines i n

/-- All lines of a context in which every turn was answered. -/
def lines (r : Report) (units : List SourceUnit) (history : List Turn) : List String :=
  summaryLines r ++ firstIssueLines r.issues ++ fileLines units ++ pastLines history

end Context

open Context

theorem contextOf_answered (r : Report) (units : List SourceUnit) {history : List Turn}
    (h : ∀ t ∈ lastTurns history, t.answer.isSome) :
    contextOf r units history = .ok (Text.join "\n" (Context.lines r units history)) := by
  unfold contextOf
  rw [historyLines_answered h]
  rfl

theorem contextOf_unanswered (r : Report) (units : List SourceUnit) {history : List Turn}
    (h : ∃ t ∈ lastTurns history, t.answer = none) :
    contextOf r units history = .error unanswered := by
  unfold contextOf
  rw [historyLines_unanswered h]
  rfl

/-- Nothing but a turn without an answer keeps a context from being told. -/
theorem contextOf_error {r : Report} {units : List SourceUnit} {history : List Turn} {e : Failure}
    (h : contextOf r units history = .error e) : e = unanswered := by
  by_cases hanswered : ∀ t ∈ lastTurns history, t.answer.isSome
  · rw [contextOf_answered r units hanswered] at h
    cases h
  · have hblank : ∃ t ∈ lastTurns history, t.answer = none := by
      simpa using hanswered
    rw [contextOf_unanswered r units hblank] at h
    exact (Except.error.inj h).symm

/-! ## How long a context can be -/

namespace Context

/-- A number of at most eighteen digits. -/
def Small (n : Int) : Prop :=
  0 ≤ n ∧ n < 10 ^ 18

theorem Small.length {n : Int} (h : Small n) : (toString n).length ≤ 18 :=
  length_int_le (by decide) h.1 h.2

theorem Small.mono {m n : Int} (h : Small n) (hm : 0 ≤ m) (hle : m ≤ n) : Small m :=
  ⟨hm, by have := h.2; omega⟩

theorem length_languageName (l : Language) : l.name.length ≤ 10 := by
  cases l <;> decide

theorem length_kindName (k : IssueKind) : k.name.length ≤ 15 := by
  cases k <;> decide

theorem length_severityLabel (v : Severity) : v.label.length ≤ 8 := by
  cases v <;> decide

/-- There are only so many languages. -/
theorem length_languages (units : List SourceUnit) :
    ((units.map (·.language)).eraseDups).length ≤ 12 := by
  have hnodup : ((units.map (·.language)).eraseDups).Nodup := by
    refine (isFirstSeen_eraseDups _).inOrder.imp fun hlt heq => ?_
    rw [heq] at hlt
    exact Nat.lt_irrefl _ hlt
  have hsub : (units.map (·.language)).eraseDups ⊆ Language.all := by
    intro l _
    cases l <;> decide
  exact (hnodup.subperm hsub).length_le

theorem length_shownLanguages (units : List SourceUnit) (issues : List Issue) :
    (Text.join ", " (Summary.ofIssues units issues).languages).length ≤ 12 * 12 := by
  have hlength : ∀ p ∈ (Summary.ofIssues units issues).languages, p.length ≤ 10 := by
    intro p hp
    simp only [Summary.ofIssues, SourceUnit.languageCounts, List.mem_map] at hp
    obtain ⟨_, ⟨l, _, rfl⟩, rfl⟩ := hp
    exact length_languageName l
  have hcount : (Summary.ofIssues units issues).languages.length ≤ 12 := by
    simp only [Summary.ofIssues, SourceUnit.languageCounts, List.length_map]
    exact length_languages units
  exact (length_join_le_mul ", " hlength).trans (Nat.mul_le_mul_right _ hcount)

theorem weight_breakdown {issues : List Issue} (h : Small issues.length) :
    weight ((breakdownOf issues).map fun (name, n) => s!"- {name}: {n}") ≤ 4 * 31 := by
  have hcount : ∀ v : Severity,
      (toString ((issues.countP fun i => i.severity == v : Nat) : Int)).length ≤ 18 := by
    intro v
    refine (h.mono (by omega) ?_).length
    exact_mod_cast List.countP_le_length
  unfold breakdownOf
  rw [List.map_map]
  refine weight_map_le fun v _ => ?_
  have hname : v.name.length ≤ 8 := by cases v <;> decide
  have hv := hcount v
  simp +ground only [Function.comp_apply, String.length_append, toString_text]
  omega

theorem weight_summaryLines {r : Report} {units : List SourceUnit}
    (hsummary : r.summary = .ofIssues units r.issues) (hmetrics : r.metrics.InRange)
    (hfiles : Small r.summary.totalFiles) (hlines : Small r.summary.totalLines)
    (hissues : Small r.summary.issueCount) : weight (summaryLines r) ≤ 600 := by
  have hlanguages := length_shownLanguages units r.issues
  have hbreakdown :
      weight (r.summary.breakdown.map fun (name, n) => s!"- {name}: {n}") ≤ 4 * 31 := by
    rw [hsummary] at hissues ⊢
    exact weight_breakdown hissues
  rw [← hsummary] at hlanguages
  have hfiles := hfiles.length
  have hlines := hlines.length
  have hissues := hissues.length
  obtain ⟨⟨hc0, hc⟩, ⟨ht0, ht⟩, ⟨hd0, hd⟩, ⟨hm0, hm⟩⟩ := hmetrics
  have hc := length_int_le (k := 3) (by decide) hc0 (by omega)
  have ht := length_int_le (k := 3) (by decide) ht0 (by omega)
  have hd := length_int_le (k := 3) (by decide) hd0 (by omega)
  have hm := length_int_le (k := 3) (by decide) hm0 (by omega)
  unfold summaryLines
  simp only [weight_append]
  simp only [toString_text] at hbreakdown
  simp +ground only [weight_cons, weight_nil, String.length_append, toString_text]
  omega

theorem weight_issueLines (i : Issue) {n : Nat} (h : n ≤ topIssues) :
    weight (issueLines i n) ≤ 1300 := by
  have hn : (toString n).length ≤ 2 := length_nat_le (by decide) (by unfold topIssues at h; omega)
  have hkind := length_kindName i.kind
  have hseverity := length_severityLabel i.severity
  have htitle := length_clip_le i.title fieldLimit
  have hlocation := length_clip_le i.location fieldLimit
  have hdescription := length_clip_le i.description fieldLimit
  have hsuggestion := length_clip_le i.suggestion fieldLimit
  unfold issueLines
  simp +ground only [weight_cons, weight_nil, String.length_append, toString_text]
  unfold fieldLimit at *
  omega

theorem weight_firstIssueLines (issues : List Issue) :
    weight (firstIssueLines issues) ≤ 13000 := by
  have hlength : ((issues.take topIssues).zipIdx 1).length ≤ 10 := by
    rw [List.length_zipIdx]
    exact List.length_take_le _ _
  have hlines : ∀ x ∈ (issues.take topIssues).zipIdx 1, weight (issueLines x.1 x.2) ≤ 1300 := by
    intro x hx
    have hlt := (List.mem_zipIdx hx).2.1
    have htake := List.length_take_le topIssues issues
    exact weight_issueLines x.1 (by omega)
  exact (weight_flatMap_le hlines).trans (Nat.mul_le_mul_right _ hlength)

theorem weight_languageLines {units : List SourceUnit} (h : Small units.length) (l : Language) :
    weight (languageLines units l) ≤ 1612 := by
  have hpaths : (pathsOf units l).length ≤ units.length := by
    rw [pathsOf, List.length_map]
    exact List.length_filter_le _ _
  have hcount {n : Nat} (hn : n ≤ (pathsOf units l).length) : (toString n).length ≤ 18 :=
    (h.mono (m := n) (by omega) (by omega)).length
  have hname := length_languageName l
  have htotal := hcount le_rfl
  have hmore := hcount (Nat.sub_le (pathsOf units l).length pathsPerLanguage)
  have htold : weight (((pathsOf units l).take pathsPerLanguage).map
      fun p => s!"  - {clip p fieldLimit}") ≤ 5 * 308 := by
    have hline : ∀ p ∈ (pathsOf units l).take pathsPerLanguage,
        s!"  - {clip p fieldLimit}".length ≤ 307 := by
      intro p _
      have hp := length_clip_le p fieldLimit
      simp +ground only [String.length_append, toString_text]
      unfold fieldLimit at *
      omega
    exact (weight_map_le hline).trans (Nat.mul_le_mul_right _ (List.length_take_le _ _))
  unfold languageLines
  simp only [weight_append]
  simp +ground only [toString_text] at htold hmore
  split
  · simp +ground only [weight_cons, weight_nil, String.length_append, toString_text]
    omega
  · simp +ground only [weight_cons, weight_nil, String.length_append, toString_text]
    omega

theorem weight_fileLines {units : List SourceUnit} (h : Small units.length) :
    weight (fileLines units) ≤ 19400 := by
  have hlanguages := (weight_flatMap_le fun l _ => weight_languageLines h l).trans
    (Nat.mul_le_mul_right 1612 (length_languages units))
  unfold fileLines
  simp only [weight_append]
  simp +ground only [weight_cons, weight_nil]
  omega

theorem weight_answeredLines (t : Turn) : weight (answeredLines t) ≤ 420 := by
  have hquestion := length_clip_le t.question turnLimit
  have hanswer := length_clip_le (t.answer.getD "") turnLimit
  unfold answeredLines
  simp +ground only [weight_cons, weight_nil, String.length_append, toString_text]
  unfold turnLimit at *
  omega

theorem weight_pastLines (history : List Turn) : weight (pastLines history) ≤ 1300 := by
  unfold pastLines
  split
  · simp
  · have hlength : (lastTurns history).length ≤ 3 := by
      rw [lastTurns, List.length_drop]
      unfold turnsTold
      omega
    have hturns := (weight_flatMap_le fun t _ => weight_answeredLines t).trans
      (Nat.mul_le_mul_right 420 hlength)
    simp +ground only [weight_cons]
    omega

end Context

end Assay
