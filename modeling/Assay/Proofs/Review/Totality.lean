import Assay.Pipeline
import Assay.Proofs.Outcome
import Assay.Proofs.Parallel
import Assay.Proofs.Text.Numeral

/-!
# Replies that stop a review

A reply is meant to end a batch with a result, whatever it says. One kind of reply does not: its
array holds an object whose line passes for a number and spells none.

* `MisspeltLine`: such a line;
* `lineOf_ok_iff`, `issuesOf_ok_iff`, `ofReply_ok_iff`: a reply is read exactly if no object in it
  has such a line;
* `reviewFrom_ok_iff`: a review ends exactly if every reply to one of its batches is read;
* `review_ends_iff`: the same for a reply, a batch, a review and an analysis together.
-/

namespace Assay.Review

/-- A line that passes for a number and spells none: a text of numerals, of which one has no
decimal value, or of which there are too many. -/
def MisspeltLine (v : Json) : Prop :=
  ∃ s, v = .str s ∧ Text.strip s.toList ≠ [] ∧
    (∀ c ∈ Text.strip s.toList, Text.isNumeral c = true) ∧
    ((∃ c ∈ Text.strip s.toList, Text.isDecimal c = false) ∨
      Json.maxDigits < (Text.strip s.toList).length)

/-- A reply whose array holds an object with a misspelt line. -/
def Derails (reply : Option String) : Prop :=
  ∃ span items o, arraySpan? (reply.getD "").toList = some span ∧
    Json.read span = .ok (.arr items) ∧ o ∈ objectsOf items ∧ MisspeltLine (o.field "line")

theorem lineOf_ok_iff (v : Json) : (∃ n, lineOf v = .ok n) ↔ ¬ MisspeltLine v := by
  cases v with
  | str s =>
    simp only [lineOf, MisspeltLine, Json.str.injEq, exists_eq_left']
    generalize Text.strip s.toList = digits
    by_cases hs : digits = []
    · simp [hs]
    · by_cases hn : ∀ c ∈ digits, Text.isNumeral c = true
      · have hread := Text.readInt_numerals hs hn
        have hall : digits.all Text.isNumeral = true := List.all_eq_true.mpr hn
        have hempty : digits.isEmpty = false := by simpa using hs
        simp only [hall, hempty, Bool.not_true, Bool.or_self, Bool.false_eq_true, if_false]
        trans ∃ n, Text.readInt (String.ofList digits) = .ok n
        · cases Text.readInt (String.ofList digits) <;> simp
        · rw [hread]
          simp only [hs, ne_eq, not_false_eq_true, true_and, not_and, not_or, not_exists,
            Bool.not_eq_false, Nat.not_lt]
          exact ⟨fun h _ => h, fun h => h hn⟩
      · have hall : digits.all Text.isNumeral = false := by
          rw [← Bool.not_eq_true, List.all_eq_true]
          exact hn
        simp [hall, hn]
  | null | bool | int | real | arr | obj => simp [lineOf, MisspeltLine]

theorem lineOf_error {v : Json} {e : Failure} (h : lineOf v = .error e) : ∃ f, e = .number f := by
  unfold lineOf at h
  split at h
  · cases h
  · dsimp only at h
    split at h
    · cases h
    · split at h
      · cases h
      · rename_i f _
        exact ⟨f, (Except.error.inj h).symm⟩
  · cases h

theorem issueOf_ok_iff (paths : List String) (id : String) (o : Json) :
    (∃ i, issueOf paths id o = .ok i) ↔ ¬ MisspeltLine (o.field "line") := by
  rw [← lineOf_ok_iff]
  unfold issueOf
  rw [exists_bind_ok]
  constructor
  · rintro ⟨n, hn, _⟩
    exact ⟨n, hn⟩
  · rintro ⟨n, hn⟩
    exact ⟨n, hn, _, rfl⟩

theorem issueOf_error {paths : List String} {id : String} {o : Json} {e : Failure}
    (h : issueOf paths id o = .error e) : ∃ f, e = .number f := by
  unfold issueOf at h
  rcases bind_eq_error.mp h with h | ⟨_, _, h⟩
  · exact lineOf_error h
  · cases h

theorem issuesOf_ok_iff (paths : List String) (idOf : Nat → String) (first : Nat)
    (os : List Json) :
    (∃ is, issuesOf paths idOf first os = .ok is) ↔ ∀ o ∈ os, ¬ MisspeltLine (o.field "line") := by
  induction os generalizing first with
  | nil => simp [issuesOf]
  | cons o os ih =>
    simp only [issuesOf, exists_bind_ok, List.forall_mem_cons]
    rw [← issueOf_ok_iff paths (idOf first), ← ih (first + 1)]
    constructor
    · rintro ⟨i, hi, is, his, _⟩
      exact ⟨⟨i, hi⟩, is, his⟩
    · rintro ⟨⟨i, hi⟩, is, his⟩
      exact ⟨i, hi, is, his, _, rfl⟩

theorem issuesOf_error {paths : List String} {idOf : Nat → String} {first : Nat} {os : List Json}
    {e : Failure} (h : issuesOf paths idOf first os = .error e) : ∃ f, e = .number f := by
  induction os generalizing first with
  | nil => cases h
  | cons o os ih =>
    rcases bind_eq_error.mp h with h | ⟨_, _, h⟩
    · exact issueOf_error h
    · rcases bind_eq_error.mp h with h | ⟨_, _, h⟩
      · exact ih h
      · cases h

theorem ofReply_ok_iff (paths : List String) (idOf : Nat → String) (first : Nat)
    (reply : Option String) :
    (∃ o, ParseOutcome.ofReply paths idOf first reply = .ok o) ↔ ¬ Derails reply := by
  unfold ParseOutcome.ofReply Derails
  cases hs : arraySpan? (reply.getD "").toList with
  | none => simp
  | some span =>
    cases hr : Json.read span with
    | error e => simp [hr]
    | ok v =>
      cases v with
      | arr items =>
        have hi := issuesOf_ok_iff paths idOf first (objectsOf items)
        simp only [hr, exists_bind_ok]
        constructor
        · rintro ⟨is, his, _⟩ ⟨_, _, o, hspan, hv, ho, hm⟩
          cases hspan
          rw [hr] at hv
          cases hv
          exact hi.mp ⟨is, his⟩ o ho hm
        · intro h
          obtain ⟨is, his⟩ := hi.mpr fun o ho hm => h ⟨span, items, o, rfl, hr, ho, hm⟩
          exact ⟨is, his, _, rfl⟩
      | null | bool | int | real | str | obj => simp [hr]

/-- Reading a reply once shows whether it derails. -/
theorem not_derails_of_isOk {reply : Option String}
    (h : (ParseOutcome.ofReply [] toString 0 reply).isOk = true) : ¬ Derails reply := by
  rw [← ofReply_ok_iff [] toString 0]
  cases ho : ParseOutcome.ofReply [] toString 0 reply with
  | error e => simp [ho, Except.isOk, Except.toBool] at h
  | ok o => exact ⟨o, rfl⟩

theorem ofReply_error {paths : List String} {idOf : Nat → String} {first : Nat}
    {reply : Option String} {e : Failure}
    (h : ParseOutcome.ofReply paths idOf first reply = .error e) : ∃ f, e = .number f := by
  unfold ParseOutcome.ofReply at h
  split at h
  · cases h
  · split at h
    · cases h
    · rcases bind_eq_error.mp h with h | ⟨_, _, h⟩
      · exact issuesOf_error h
      · cases h
    · cases h

theorem ofReply_number_iff (paths : List String) (idOf : Nat → String) (first : Nat)
    (reply : Option String) :
    (∃ f, ParseOutcome.ofReply paths idOf first reply = .error (.number f)) ↔ Derails reply :=
  number_iff_of_ok_iff (ofReply_ok_iff paths idOf first reply) fun _ => ofReply_error

/-! ## Batches -/

/-- A reply of the model that stops its batch: a text that derails. -/
def StopsBatch (reply : Reply) : Prop :=
  ∃ s, reply = .text s ∧ Derails (some s)

theorem not_derails_none : ¬ Derails none := by
  rintro ⟨span, _, _, hs, _⟩
  simp [arraySpan?] at hs

theorem ofOutcome_ok (index : Int) (paths : List String) (o : ParseOutcome) :
    ∃ r, (BatchResult.ofOutcome index paths o).outcome = .ok r := by
  unfold BatchResult.ofOutcome
  split
  · exact ⟨_, rfl⟩
  · split
    · exact ⟨_, rfl⟩
    · exact ⟨_, rfl⟩

theorem ofReply_outcome_ok_iff (index : Int) (paths : List String) (idOf : Nat → String)
    (first : Nat) (reply : Reply) :
    (∃ r, (BatchResult.ofReply index paths idOf first reply).outcome = .ok r) ↔
      ¬ StopsBatch reply := by
  cases reply with
  | text s =>
    simp only [BatchResult.ofReply, Trail.outcome_bind, Trail.outcome_ofExcept, exists_bind_ok,
      ofOutcome_ok, and_true, ofReply_ok_iff, StopsBatch, Reply.text.injEq, exists_eq_left']
  | nothing =>
    simp only [BatchResult.ofReply, Trail.outcome_bind, Trail.outcome_ofExcept, exists_bind_ok,
      ofOutcome_ok, and_true, ofReply_ok_iff, StopsBatch, not_derails_none]
    simp
  | serviceError message =>
    exact iff_of_true ⟨_, rfl⟩ (by simp [StopsBatch])
  | crash kind message =>
    exact iff_of_true ⟨_, rfl⟩ (by simp [StopsBatch])

theorem reviewBatch_ok_iff (idOf : Nat → String) (index : Int) (batch : List SourceUnit)
    (first : Nat) (reply : Reply) :
    (∃ r, (reviewBatch idOf false index batch first (some reply)).outcome = .ok r) ↔
      ¬ StopsBatch reply := by
  rw [← ofReply_outcome_ok_iff index (batch.map (·.path)) idOf first]
  simp [reviewBatch]

/-! ## Reviews and analyses -/

theorem reviewBatch_error {idOf : Nat → String} {index : Int} {batch : List SourceUnit}
    {first : Nat} {reply : Reply} {e : Failure}
    (h : (reviewBatch idOf false index batch first (some reply)).outcome = .error e) :
    ∃ f, e = .number f := by
  simp only [reviewBatch, Bool.false_eq_true, if_false, Trail.outcome_bind, Trail.outcome_emit]
    at h
  cases reply with
  | text s | nothing =>
    simp only [BatchResult.ofReply, Trail.outcome_bind, Trail.outcome_ofExcept] at h
    rcases bind_eq_error.mp h with h | ⟨_, _, h⟩
    · cases h
    · rcases bind_eq_error.mp h with h | ⟨o, _, h⟩
      · exact ofReply_error h
      · obtain ⟨r, hr⟩ := ofOutcome_ok index (batch.map (·.path)) o
        rw [hr] at h
        cases h
  | serviceError message => cases h
  | crash kind message => cases h

theorem reviewFrom_ok_iff (idOf : Nat → String) (p : Provider) (index first : Nat)
    (bs : List (List SourceUnit)) :
    (∃ rs, (reviewFrom idOf (some p) index first bs).outcome = .ok rs) ↔
      ∀ k < bs.length, ¬ StopsBatch (p.reply (index + k)) := by
  induction bs generalizing index first with
  | nil => simp [reviewFrom]
  | cons b bs ih =>
    simp only [reviewFrom, Option.map_some, Trail.outcome_bind, exists_bind_ok]
    constructor
    · rintro ⟨r, hr, rs, hrs, _⟩ k hk
      cases k with
      | zero => exact (reviewBatch_ok_iff idOf index b first _).mp ⟨r, hr⟩
      | succ k =>
        have h := (ih (index + 1) _).mp ⟨rs, hrs⟩ k (by simpa using hk)
        rwa [show index + 1 + k = index + (k + 1) by omega] at h
    · intro h
      obtain ⟨r, hr⟩ := (reviewBatch_ok_iff idOf index b first _).mpr (h 0 (by simp))
      obtain ⟨rs, hrs⟩ := (ih (index + 1) (first + r.issues.length)).mpr fun k hk => by
        rw [show index + 1 + k = index + (k + 1) by omega]
        exact h (k + 1) (by simpa using hk)
      exact ⟨r, hr, rs, hrs, _, rfl⟩

theorem reviewFrom_error {idOf : Nat → String} {p : Provider} {index first : Nat}
    {bs : List (List SourceUnit)} {e : Failure}
    (h : (reviewFrom idOf (some p) index first bs).outcome = .error e) : ∃ f, e = .number f := by
  induction bs generalizing index first with
  | nil => cases h
  | cons b bs ih =>
    simp only [reviewFrom, Option.map_some, Trail.outcome_bind] at h
    rcases bind_eq_error.mp h with h | ⟨r, _, h⟩
    · exact reviewBatch_error h
    · rcases bind_eq_error.mp h with h | ⟨rs, _, h⟩
      · exact ih h
      · cases h

theorem reviewAll_outcome (stamp : Nat) (p : Provider) (units : List SourceUnit) :
    (reviewAll stamp (some p) false units).outcome =
      (reviewFrom (issueId stamp) (some p) 0 0 (chunks 3 units)).outcome := by
  simp only [reviewAll, checkCancelled, Trail.outcome_bind, Bool.false_eq_true, if_false,
    Trail.outcome_pure, Trail.outcome_ofExcept, Option.isSome_some, if_true, Trail.outcome_info]
  rfl

theorem reviewAll_ok_iff (stamp : Nat) (p : Provider) (units : List SourceUnit) :
    (∃ rs, (reviewAll stamp (some p) false units).outcome = .ok rs) ↔
      ∀ k < (chunks 3 units).length, ¬ StopsBatch (p.reply k) := by
  rw [reviewAll_outcome, reviewFrom_ok_iff]
  simp only [Nat.zero_add]

theorem reviewAll_number_iff (stamp : Nat) (p : Provider) (units : List SourceUnit) :
    (∃ f, (reviewAll stamp (some p) false units).outcome = .error (.number f)) ↔
      ∃ k < (chunks 3 units).length, StopsBatch (p.reply k) := by
  apply number_iff_of_ok_iff
  · simp only [reviewAll_ok_iff, not_exists, not_and]
  · intro e h
    rw [reviewAll_outcome] at h
    exact reviewFrom_error h

/-- Making a report never fails for the sake of a number. -/
theorem build_ne_number (units : List SourceUnit) (issues : List Issue) (timestamp : String)
    (f : NumberFault) : Report.build units issues timestamp ≠ .error (.number f) := by
  intro h
  unfold Report.build at h
  split at h
  · cases h
  · split at h
    · cases h
    · rcases bind_eq_error.mp h with h | ⟨_, _, h⟩
      · unfold Metrics.ofIssues at h
        split at h <;> cases h
      · cases h

/-- The files by themselves never stop an analysis: what is found is found in those whose analysis
has ended. -/
theorem unitIssues_ended (clock : Clock) (provider : Option Provider) (ended : List (List Nat))
    (units : List SourceUnit) :
    (Analysis.unitIssues ⟨clock, provider, false, ended.map .ended⟩ units).outcome =
      .ok ((Parallel.atIndices units ended.flatten).flatMap fun u =>
        (UnitResult.ofUnit u).issues) := by
  simp only [Analysis.unitIssues, Trail.outcome_bind, Trail.outcome_ofExcept,
    Parallel.collect_ended, ok_bind, Trail.outcome_pure, Parallel.resultsAt_flatMap]

/-- An analysis that is not called off and has a model ends in what the model's review and the
making of the report end in. -/
theorem run_outcome (clock : Clock) (p : Provider) (ended : List (List Nat))
    (units : List SourceUnit) (otherPaths : List String) :
    ∃ found, (Analysis.run ⟨clock, some p, false, ended.map .ended⟩ units otherPaths).outcome =
      (reviewAll clock.stamp (some p) false units).outcome >>= fun results =>
        Report.build units (found ++ results.flatMap (·.issues) ++
          Analysis.projectIssues units otherPaths) clock.timestamp := by
  have hf := unitIssues_ended clock (some p) ended units
  refine ⟨(Parallel.atIndices units ended.flatten).flatMap fun u => (UnitResult.ofUnit u).issues,
    ?_⟩
  simp only [Analysis.run, Analysis.issues, Analysis.reviewIssues, reviewIssues, checkCancelled,
    Bool.false_eq_true, if_false, Option.isSome_some, if_true, Trail.outcome_bind,
    Trail.outcome_pure, Trail.outcome_info, Trail.outcome_debug, Trail.outcome_ofExcept, hf,
    ok_bind, bind_assoc, bind_ok]

/-- The making of the report never fails for the sake of a number, so only the review does. -/
theorem run_number_iff (clock : Clock) (p : Provider) (ended : List (List Nat))
    (units : List SourceUnit) (otherPaths : List String) :
    (∃ f, (Analysis.run ⟨clock, some p, false, ended.map .ended⟩ units otherPaths).outcome =
      .error (.number f)) ↔ ∃ k < (chunks 3 units).length, StopsBatch (p.reply k) := by
  obtain ⟨found, hrun⟩ := run_outcome clock p ended units otherPaths
  rw [hrun, ← reviewAll_number_iff clock.stamp p units]
  constructor
  · rintro ⟨f, h⟩
    rcases bind_eq_error.mp h with h | ⟨results, _, h⟩
    · exact ⟨f, h⟩
    · exact absurd h (build_ne_number _ _ _ f)
  · rintro ⟨f, h⟩
    exact ⟨f, bind_eq_error.mpr (Or.inl h)⟩

/-- **What stops a review.** A reply is read, its batch ends, a review ends and an analysis comes to
its report, all exactly unless a line passes for a number and spells none. -/
theorem review_ends_iff (paths : List String) (idOf : Nat → String) (first : Nat) :
    (∀ reply : Option String,
      ((∃ o, ParseOutcome.ofReply paths idOf first reply = .ok o) ↔ ¬ Derails reply) ∧
      ((∃ f, ParseOutcome.ofReply paths idOf first reply = .error (.number f)) ↔
        Derails reply)) ∧
    (∀ (index : Int) (batch : List SourceUnit) (reply : Reply),
      (∃ r, (reviewBatch idOf false index batch first (some reply)).outcome = .ok r) ↔
        ¬ StopsBatch reply) ∧
    (∀ (stamp : Nat) (p : Provider) (units : List SourceUnit),
      (∃ rs, (reviewAll stamp (some p) false units).outcome = .ok rs) ↔
        ∀ k < (chunks 3 units).length, ¬ StopsBatch (p.reply k)) ∧
    (∀ (clock : Clock) (p : Provider) (ended : List (List Nat)) (units : List SourceUnit)
      (otherPaths : List String),
      (∃ f, (Analysis.run ⟨clock, some p, false, ended.map .ended⟩ units otherPaths).outcome =
        .error (.number f)) ↔ ∃ k < (chunks 3 units).length, StopsBatch (p.reply k)) :=
  ⟨fun reply => ⟨ofReply_ok_iff paths idOf first reply, ofReply_number_iff paths idOf first reply⟩,
    fun index batch reply => reviewBatch_ok_iff idOf index batch first reply,
    reviewAll_ok_iff, run_number_iff⟩

/-- A superscript passes for a number. -/
theorem superscript_line_stops :
    ¬ ∀ paths idOf first reply, ∃ o, ParseOutcome.ofReply paths idOf first reply = .ok o := by
  intro h
  obtain ⟨o, ho⟩ := h ["a.js"] (fun _ => "id-0") 0 (some "[\x7b\x22line\x22: \x22²\x22\x7d]")
  have hfails : (ParseOutcome.ofReply ["a.js"] (fun _ => "id-0") 0
      (some "[\x7b\x22line\x22: \x22²\x22\x7d]")).isOk = false := by
    decide +kernel
  rw [ho] at hfails
  cases hfails

end Assay.Review
